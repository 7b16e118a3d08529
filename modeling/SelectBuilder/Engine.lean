/-! Table engines, as far as statements depend on them. -/
namespace SelectBuilder

inductive Engine where
  | mergeTree
  | replacingMergeTree
  | summingMergeTree
  | aggregatingMergeTree
  | collapsingMergeTree
  | versionedCollapsingMergeTree
  | memory
  | log
  | buffer
  | distributed
  deriving DecidableEq, Repr

namespace Engine

def name : Engine → String
  | .mergeTree => "MergeTree"
  | .replacingMergeTree => "ReplacingMergeTree"
  | .summingMergeTree => "SummingMergeTree"
  | .aggregatingMergeTree => "AggregatingMergeTree"
  | .collapsingMergeTree => "CollapsingMergeTree"
  | .versionedCollapsingMergeTree => "VersionedCollapsingMergeTree"
  | .memory => "Memory"
  | .log => "Log"
  | .buffer => "Buffer"
  | .distributed => "Distributed"

def all : List Engine :=
  [.mergeTree, .replacingMergeTree, .summingMergeTree, .aggregatingMergeTree, .collapsingMergeTree,
    .versionedCollapsingMergeTree, .memory, .log, .buffer, .distributed]

def ofName? (name : String) : Option Engine :=
  all.find? (·.name = name)

/-- Rows of a collapsing or replacing engine are final only after a merge, which FINAL asks for. -/
def supportsFinal : Engine → Bool
  | .collapsingMergeTree | .versionedCollapsingMergeTree | .replacingMergeTree => true
  | _ => false

end Engine

end SelectBuilder
