import Attribution.Diagnosis
import Attribution.Files.Tree

/-! The ways in which instrumenting the kernel can fail. -/

namespace Attribution.Probe

/-- Why an image does not load. -/
inductive LoadFault where
  | notAnImage
  /-- A program's section is of no known type. -/
  | invalidProgram
  deriving DecidableEq, Repr

inductive Error where
  | unsupportedArchitecture (architecture : String)
  | unsupportedKernel (release : String)
  | tracingUnavailable (path : Path) (fault : Files.Fault)
  | load (path : Path) (fault : LoadFault)
  /-- The map exists but is of the wrong kind. -/
  | openReader (map : String)
  deriving DecidableEq, Repr

namespace Error

def loadText (path : Path) : LoadFault → String
  | .notAnImage => "failed to open object from `" ++ path.text ++ "`"
  | .invalidProgram => Files.Fault.invalidArgument.message

/-- The readers' own words for a map that is no perf map. -/
def readerText : String := "Must use a PerfEventArray map"

def diagnosis : Error → Diagnosis
  | unsupportedArchitecture architecture => .ofText ("unsupported architecture: " ++ architecture)
  | unsupportedKernel release => .ofText ("unsupported kernel version: " ++ release)
  | tracingUnavailable path fault =>
    .caused ("kernel tracing is not available at `" ++ path.text ++ "`: ") fault.message
  | load path fault =>
    .caused ("failed to load instrumentation image `" ++ path.text ++ "`: ") (loadText path fault)
  | openReader map =>
    .caused ("failed to open perf reader for map `" ++ map ++ "`: ") readerText

def message (failure : Error) : String :=
  failure.diagnosis.text

/-- Every part of the failure spelled out. -/
def details : Error → String
  | unsupportedArchitecture architecture =>
    "UnsupportedArchitecture(" ++ Text.quoted architecture ++ ")"
  | unsupportedKernel release => "UnsupportedKernelVersion(" ++ Text.quoted release ++ ")"
  | tracingUnavailable path fault =>
    "TracingUnavailable \x7b path: " ++ Text.quoted path.text ++ ", source: " ++ fault.details ++ " \x7d"
  | load path fault =>
    "Load \x7b path: " ++ Text.quoted path.text ++ ", source: " ++ Text.quoted (loadText path fault) ++
      " \x7d"
  | openReader map =>
    "OpenReader \x7b map: " ++ Text.quoted map ++ ", source: " ++ Text.quoted readerText ++ " \x7d"

end Error

end Attribution.Probe
