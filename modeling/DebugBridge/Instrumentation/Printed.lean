import DebugBridge.Instrumentation.Parser

/-!
# What a test run prints

The other side of reading a run: the lines that an instrumentation prints for some tests. For each test
it prints a bundle when the test starts and another when it has ended. Both name the test and the
number of tests in the run, and both may hold entries of other keys, anywhere. After the last test
come the entries of the result, the time and the code of the whole run.

What cannot be told from its lines cannot be built: a key has no equals sign, and a line on which a
value goes on begins with none of the leads.
-/

namespace DebugBridge.Printed

/-! ## Entries -/

/-- The leads by which a line is told. -/
def leads : List String :=
  ["INSTRUMENTATION_STATUS_CODE: ", "INSTRUMENTATION_STATUS: ", "INSTRUMENTATION_RESULT: ",
    "INSTRUMENTATION_CODE: ", "INSTRUMENTATION_FAILED: ", "Time: "]

/-- Does a line begin with none of the leads? -/
def Plain (line : String) : Prop := ∀ lead ∈ leads, ¬ lead.toList <+: line.toList

instance (line : String) : Decidable (Plain line) :=
  inferInstanceAs (Decidable (∀ lead ∈ leads, ¬ lead.toList <+: line.toList))

/-- A value, line by line. -/
structure Value where
  /-- What stands on the line of its key. -/
  first : String
  /-- The lines on which it goes on. -/
  more : List String
  plain : ∀ line ∈ more, Plain line

/-- The text of a value: its lines, joined. -/
def Value.text (v : Value) : String := Text.join "\r\n" (v.first :: v.more)

/-- A key and its value. -/
structure Entry where
  /-- The key. -/
  key : String
  /-- The value. -/
  value : Value
  noSign : '=' ∉ key.toList

/-- The lead of the entries of a section. -/
def lead : Section → String
  | .status => "INSTRUMENTATION_STATUS: "
  | .result => "INSTRUMENTATION_RESULT: "

/-- The lines of an entry of a section. -/
def Entry.lines (sect : Section) (e : Entry) : List String :=
  (lead sect ++ (e.key ++ "=" ++ e.value.first)) :: e.value.more

/-- The keys that tell about tests and failures of runs. -/
def recognised : List String := ["test", "class", "stack", "numtests", "Error", "shortMsg"]

/-- The recognised keys among some entries, each with the text of its value. -/
def fields (entries : List Entry) : List (String × String) :=
  (entries.filter fun e => recognised.contains e.key).map fun e => (e.key, e.value.text)

/-- The lines of a bundle: its entries, and the code that closes it. -/
def bundle (entries : List Entry) (code : Int) : List String :=
  entries.flatMap (Entry.lines .status) ++
    ["INSTRUMENTATION_STATUS_CODE: " ++ toString code]

/-! ## Tests -/

/-- The recognised keys of every bundle of a test in a run of `n` tests. -/
def identity (n : Nat) (test : TestId) : List (String × String) :=
  [("class", test.className), ("test", test.testName), ("numtests", toString n)]

/-- A test in a run of `n` tests. -/
structure Test (n : Nat) where
  /-- The test method. -/
  id : TestId
  /-- How it failed and the trace, unless it passed. -/
  failure : Option (TestFailure × String)
  /-- The entries printed when it starts. -/
  opening : List Entry
  /-- The entries printed when it has ended. -/
  closing : List Entry
  opening_fields : (fields opening).Perm (identity n id)
  closing_fields :
    (fields closing).Perm (identity n id ++ failure.toList.map fun f => ("stack", f.2))

namespace Test

variable {n : Nat}

/-- The code that closes the second bundle. -/
def code (t : Test n) : Int :=
  match t.failure with
  | none => 0
  | some (.error, _) => -1
  | some (.failure, _) => -2

/-- The lines of a test. -/
def lines (t : Test n) : List String := bundle t.opening 1 ++ bundle t.closing t.code

/-- What is to be reported of a test. -/
def reports (t : Test n) : List RunReport :=
  .testStarted t.id ::
    (t.failure.toList.map fun f => RunReport.testFailed f.1 t.id f.2) ++ [.testEnded t.id]

end Test

/-! ## The end of a run -/

/-- What is printed after the last test. -/
structure Epilogue where
  /-- The entries of the result. -/
  results : List Entry
  /-- The time that the run took. -/
  span : String
  /-- Lines after the time, such as the number of tests in words. -/
  remarks : List String
  /-- The code of the run. -/
  code : String
  noFailure : ∀ e ∈ results, e.key ≠ "Error" ∧ e.key ≠ "shortMsg"
  plain : ∀ line ∈ remarks, Plain line

namespace Epilogue

/-- The lines after the last test. -/
def lines (e : Epilogue) : List String :=
  e.results.flatMap (Entry.lines .result) ++ ["Time: " ++ e.span] ++ e.remarks ++
    ["INSTRUMENTATION_CODE: " ++ e.code]

/-- The time of the run in milliseconds; zero if what is printed is no time. -/
def elapsed (e : Epilogue) : Nat :=
  (Text.millisOfSeconds? ((Text.trimmed e.span).toList.filter (· != ','))).getD 0

end Epilogue

end DebugBridge.Printed
