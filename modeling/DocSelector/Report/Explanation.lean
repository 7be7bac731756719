import DocSelector.ErrorCode
import DocSelector.Report

/-!
# Explanations

The long explanation of an error, asked for by its code.
-/

namespace DocSelector

/-- The text for a code that is not known: the codes that are known follow on a line of their own,
which is not closed. -/
def UnknownErrorCode.report (unknown : UnknownErrorCode) : String :=
  let known := ", ".intercalate (ErrorCode.all.map ErrorCode.text)
  s!"error: {unknown}\nKnown codes: {known}"

/-- The explanation of the error with the given code. It succeeds if the code is known. -/
def explanationReport (code : String) : Report :=
  match ErrorCode.parse code with
  | .ok code => { text := s!"{code}\n\n{code.explanation}", success := true }
  | .error unknown => { text := unknown.report, success := false }

end DocSelector
