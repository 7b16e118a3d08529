import SelectBuilder.Connection.Http
import SelectBuilder.Proofs.Document.Space
import SelectBuilder.Proofs.Outcome
import SelectBuilder.Proofs.Text.Lines

/-! The rows of a result are read line by line: all of them in their order, or the first that cannot
be read decides. -/
namespace SelectBuilder

/-- White space behind a row changes nothing, whether the row can be read or not. -/
theorem Row.read_append_space (s : String) {w : String} (hw : Document.AllSpace w.toList) :
    Row.read (s ++ w) = Row.read s := by
  rw [Row.read, Row.read, Row.ofString?, Row.ofString?, Document.ofString?_append_space s hw]

section Decoding

variable {κ α : Type} {decode : κ → Except String α} {rows : List κ}

theorem decodeRows_eq_ok {values : List α} :
    decodeRows decode rows = .ok values ↔
      List.Forall₂ (fun row value => decode row = .ok value) rows values := by
  rw [decodeRows, Outcome.mapM_eq_ok]
  simp only [Outcome.mapError_eq_ok]

theorem decodeRows_eq_error {e : QueryError} :
    decodeRows decode rows = .error e ↔
      ∃ reason, e = .decode reason ∧ Outcome.FirstFails decode rows reason := by
  rw [decodeRows, Outcome.mapM_eq_error, Outcome.firstFails_mapError]

end Decoding

section Reading

variable {ρ : Type} {read : String → Except String ρ}

theorem decodeRows_of_upToReturn (hreturn : ∀ row, read (row ++ "\r") = read row)
    {rows kept : List String} (h : List.Forall₂ Text.UpToReturn rows kept) :
    decodeRows read kept = decodeRows read rows := by
  refine Outcome.mapM_eq_of_forall₂ h fun row line hrow => ?_
  rcases hrow with rfl | rfl
  · rfl
  · rw [hreturn]

/-- A reader for which a return behind a row is white space reads the rows of a text that lists
them: it gives one value for each row, in their order, or fails with the reason of the first row
that it cannot read. How the lines end and which blank lines lie among them makes no difference. -/
theorem readRows_reads_each_row (hreturn : ∀ row, read (row ++ "\r") = read row)
    {rows : List String} (hrows : ∀ row ∈ rows, Text.OneLine row ∧ Text.isBlankText row = false)
    {body : String} (h : Text.Lists rows body) :
    (∀ values, readRows read body = .ok values ↔
      List.Forall₂ (fun row value => read row = .ok value) rows values) ∧
    ∀ e, readRows read body = .error e ↔
      ∃ reason, e = .decode reason ∧ Outcome.FirstFails read rows reason := by
  have hkept : readRows read body = decodeRows read rows :=
    decodeRows_of_upToReturn hreturn (Text.filledLines_of_lists h hrows)
  rw [hkept]
  exact ⟨fun _ => decodeRows_eq_ok, fun _ => decodeRows_eq_error⟩

theorem readRows_reads_each_row_mixed_endings :
    readRows Row.read " \n\x7b\"a\":true\x7d\r\n\n\x7b\x7d" =
      .ok [Entries.ofList [("a", .bool true)], Entries.ofList []] ∧
    readRows Row.read "\x7b\x7d\n\t\r\n[]\r\n" = .error (.decode "no object") := by
  have hreturn (s : String) : Row.read (s ++ "\r") = Row.read s :=
    Row.read_append_space s (by decide)
  have hread :
      Text.Lists ["\x7b\"a\":true\x7d", "\x7b\x7d"] " \n\x7b\"a\":true\x7d\r\n\n\x7b\x7d" := by
    have hbody : " \n\x7b\"a\":true\x7d\r\n\n\x7b\x7d" =
      " " ++ "\n" ++ ("\x7b\"a\":true\x7d" ++ "\r\n" ++ ("" ++ "\n" ++ "\x7b\x7d")) := by decide
    rw [hbody]
    exact .blank (by decide) (by decide) .feed
      (.row _ .returnFeed (.blank (by decide) (by decide) .feed (.lastRow _)))
  have hfails : Text.Lists ["\x7b\x7d", "[]"] "\x7b\x7d\n\t\r\n[]\r\n" := by
    have hbody : "\x7b\x7d\n\t\r\n[]\r\n" =
      "\x7b\x7d" ++ "\n" ++ ("\t" ++ "\r\n" ++ ("[]" ++ "\r\n" ++ "")) := by decide
    rw [hbody]
    exact .row _ .feed
      (.blank (by decide) (by decide) .returnFeed (.row _ .returnFeed (.lastBlank (by decide) rfl)))
  refine ⟨?read, ?fails⟩
  case read =>
    exact ((readRows_reads_each_row hreturn (by decide) hread).1 _).mpr
      (.cons (by cbv) (.cons (by cbv) .nil))
  case fails =>
    refine ((readRows_reads_each_row hreturn (by decide) hfails).2 _).mpr ⟨"no object", rfl, ?_⟩
    exact ⟨["\x7b\x7d"], "[]", [], rfl, by cbv, by decide +kernel⟩

end Reading

end SelectBuilder
