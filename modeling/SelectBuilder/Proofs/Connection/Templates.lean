import SelectBuilder.Connection.Http

/-! Statements as templates. A reader that takes question marks in pairs from left to right reads a
statement with doubled question marks back as it was, whatever stands behind them, so that a server
is asked exactly what a source was asked. -/
namespace SelectBuilder

namespace Template

/-- How a template is read: from left to right, two question marks as one character, one in front of
the word `fields` as the list of fields, and any other as an argument. -/
structure LeftToRight (read : List Char → List Part) : Prop where
  nil : read [] = []
  doubled (rest : List Char) : read ('?' :: '?' :: rest) = .char '?' :: read rest
  fieldList (rest : List Char) : read ('?' :: ("fields".toList ++ rest)) = .fieldList :: read rest
  argument {rest : List Char} (hmark : ¬ ['?'] <+: rest) (hfields : ¬ "fields".toList <+: rest) :
    read ('?' :: rest) = .argument :: read rest
  char {c : Char} (hc : c ≠ '?') (rest : List Char) : read (c :: rest) = .char c :: read rest

theorem parts_leftToRight : LeftToRight parts where
  nil := rfl
  doubled _ := rfl
  fieldList _ := rfl
  argument hmark hfields := by
    rw [parts]
    · rintro rest rfl
      exact hmark ⟨rest, rfl⟩
    · rintro rest rfl
      exact hfields ⟨rest, rfl⟩
  char hc rest := by
    rw [parts]
    · exact fun _ heq => absurd heq hc
    · exact fun _ heq => absurd heq hc
    · exact hc

variable {read : List Char → List Part}

/-- The rules leave no choice. -/
theorem LeftToRight.eq_parts (hread : LeftToRight read) (s : List Char) : read s = parts s := by
  fun_induction parts s with
  | case1 rest ih => rw [hread.doubled, ih]
  | case2 rest ih => exact (hread.fieldList rest).trans (congrArg _ ih)
  | case3 rest hmark hfields ih =>
    rw [hread.argument, ih]
    · rintro ⟨after, rfl⟩
      exact hmark after rfl
    · rintro ⟨after, rfl⟩
      exact hfields after rfl
  | case4 c rest _ _ hc ih => rw [hread.char hc, ih]
  | case5 => exact hread.nil

/-- Behind doubled question marks a reader stands in front of whole pairs again. -/
theorem LeftToRight.read_doubled (hread : LeftToRight read) (s rest : List Char) :
    read (s.flatMap Text.doublePlaceholder ++ rest) = s.map .char ++ read rest := by
  induction s with
  | nil => rfl
  | cons c s ih =>
    rw [List.flatMap_cons, List.append_assoc, List.map_cons, List.cons_append, ← ih]
    by_cases hc : c = '?'
    · subst hc
      exact hread.doubled _
    · rw [Text.doublePlaceholder, if_neg hc]
      exact hread.char hc _

theorem LeftToRight.read_escapePlaceholders (hread : LeftToRight read) (sql : String) :
    read (Text.escapePlaceholders sql).toList = sql.toList.map .char := by
  rw [Text.escapePlaceholders, String.toList_ofList, ← List.append_nil (List.flatMap _ _),
    hread.read_doubled, hread.nil, List.append_nil]

theorem mapM_char? (s : List Char) : (s.map Part.char).mapM Part.char? = some s := by
  induction s with
  | nil => rfl
  | cons c s ih =>
    rw [List.map_cons, List.mapM_cons, ih]
    rfl

theorem statement?_escapePlaceholders (sql : String) :
    statement? (Text.escapePlaceholders sql) = some sql := by
  rw [statement?, parts_leftToRight.read_escapePlaceholders, mapM_char?, Option.map_some,
    String.ofList_toList]

end Template

def Settings.fitsRequest (s : Settings) : Bool :=
  (Address.ofString? s.url).isSome && (s.user.toList ++ s.password.toList).all Request.isHeaderText

/-- Whether anything can be sent under settings, and a reply waited for. -/
def Settings.canSend (s : Settings) : Bool :=
  s.fitsRequest && s.timeoutSeconds != 0

/-- The request for a statement with doubled question marks asks for that statement, and there is
one if the settings can stand in it. -/
theorem Request.statement_ofTemplate (settings : Settings) (format : Option ResultFormat)
    (sql : String) :
    (ofTemplate settings format (Text.escapePlaceholders sql)).toOption.map statement =
      if settings.fitsRequest then some sql else none := by
  rw [ofTemplate, Template.statement?_escapePlaceholders, Settings.fitsRequest]
  cases Address.ofString? settings.url with
  | none => rfl
  | some address =>
    cases (settings.user.toList ++ settings.password.toList).all isHeaderText <;> rfl

namespace HttpSource

/-- A server that keeps the requests that reach it and has an answer to each. -/
def recorder (settings : Settings) (answer : Request → Outcome) :
    HttpSource (StateM (List Request)) where
  settings
  server request := do
    modify (· ++ [request])
    return answer request

def sent {α : Type} (x : Run (StateM (List Request)) α) : List String :=
  (x.run.run []).2.map Request.statement

variable {α β : Type}

theorem sent_bind {x : Run (StateM (List Request)) α} {f : α → Run (StateM (List Request)) β}
    (hf : ∀ a log, ((f a).run.run log).2 = log) : sent (x >>= f) = sent x := by
  unfold sent
  rw [ExceptT.run_bind, StateT.run_bind]
  obtain ⟨result, log⟩ := x.run.run []
  cases result with
  | error e => rfl
  | ok a => exact congrArg _ (hf a log)

variable (settings : Settings) (answer : Request → Outcome) (format : Option ResultFormat)

theorem sent_send (template : String) : sent ((recorder settings answer).send format template) =
    if settings.timeoutSeconds = 0 then []
    else ((Request.ofTemplate settings format template).toOption.map Request.statement).toList := by
  have hsettings : (recorder settings answer).settings = settings := rfl
  unfold send
  rw [hsettings]
  cases Request.ofTemplate settings format template with
  | error fault => exact (ite_self []).symm
  | ok request =>
    have hrequest : ∀ f : Request → Run (StateM (List Request)) (List UInt8),
        (Run.of (Except.mapError QueryError.database (.ok request)) >>= f) = f request :=
          fun f => rfl
    rw [hrequest]
    split
    next => rfl
    next =>
      rw [sent_bind]
      · rfl
      · -- whatever the answer is, nothing is sent after it
        intro outcome log
        cases outcome <;> rfl

/-- A statement with doubled question marks is sent as it was, if anything is sent under the
settings. -/
theorem sent_send_escapePlaceholders (sql : String) :
    sent ((recorder settings answer).send format (Text.escapePlaceholders sql)) =
      if settings.canSend then [sql] else [] := by
  rw [sent_send, Request.statement_ofTemplate, Settings.canSend]
  by_cases htimeout : settings.timeoutSeconds = 0
  · simp [htimeout]
  · cases settings.fitsRequest <;> simp [htimeout]

theorem sent_fetchText (resultFormat : ResultFormat) (sql : String) :
    sent ((recorder settings answer).fetchText resultFormat sql) = if settings.canSend then
      [sql] else [] := by
  rw [fetchText, sent_bind fun _ _ => rfl]
  exact sent_send_escapePlaceholders settings answer (some resultFormat) sql

end HttpSource

/-- However a client reads templates by the rules, the template that is made of a statement asks for
no argument and no list of fields and stands for exactly that statement. So what reaches the server
for a selection, for a value and for a number of rows is the one statement that was asked for,
unless nothing can be sent under the settings. -/
theorem HttpSource.escaped_statements_read_back {read : List Char → List Template.Part}
    (hread : Template.LeftToRight read) :
    (∀ sql : String,
      Template.Part.argument ∉ read (Text.escapePlaceholders sql).toList ∧
        Template.Part.fieldList ∉ read (Text.escapePlaceholders sql).toList ∧
        (read (Text.escapePlaceholders sql).toList).mapM Template.Part.char? = some sql.toList) ∧
      (∀ template, read template = Template.parts template) ∧
      ∀ (settings : Settings) (answer : Request → Outcome),
        (∀ sql, sent ((recorder settings answer).dataSource.select sql) = if settings.canSend then
          [sql] else []) ∧
          (∀ sql, sent ((recorder settings answer).dataSource.raw sql) = if settings.canSend then
            [sql] else []) ∧
          ∀ table conditions, sent ((recorder settings answer).dataSource.count table conditions) =
            if settings.canSend then [countStatement table conditions] else [] := by
  refine ⟨fun sql => ?_, hread.eq_parts, fun settings answer =>
    ⟨fun sql => ?_, fun sql => ?_, fun table conditions => ?_⟩⟩
  · rw [hread.read_escapePlaceholders, Template.mapM_char?]
    simp
  · exact (sent_bind fun _ _ => rfl).trans (sent_fetchText settings answer .rows sql)
  · exact (sent_bind fun _ _ => rfl).trans (sent_fetchText settings answer .plain sql)
  · exact (sent_bind fun _ _ => rfl).trans
      (sent_send_escapePlaceholders settings answer (some .binary)
        (countStatement table conditions))

/-- Runs of question marks of either parity, in front of the word `fields` and at the end. -/
theorem HttpSource.escaped_statements_read_back_fields :
    let sql := "SELECT '?fields', '???fields' FROM `t` WHERE a = '??' OR b = ?"
    let template := "SELECT '??fields', '??????fields' FROM `t` WHERE a = '????' OR b = ??"
    let answer := fun _ : Request => Outcome.silence
    Template.LeftToRight Template.parts ∧ Text.escapePlaceholders sql = template ∧
      (Template.parts template.toList).mapM Template.Part.char? = some sql.toList ∧
      sent ((recorder .defaults answer).dataSource.raw sql) = [sql] := by
  intro sql template answer
  obtain ⟨hdecode, -, hsent⟩ := escaped_statements_read_back Template.parts_leftToRight
  have htemplate : Text.escapePlaceholders sql = template := by decide +kernel
  have hcan : Settings.defaults.canSend = true := by decide +kernel
  have hraw := (hsent .defaults answer).2.1 sql
  rw [hcan] at hraw
  exact ⟨Template.parts_leftToRight, htemplate, htemplate ▸ (hdecode sql).2.2, hraw⟩

end SelectBuilder
