import Attribution.Text.Split

/-! What the section of a program says about where the program attaches. -/

namespace Attribution.Probe

/-- A tracepoint of the kernel. -/
structure Tracepoint where
  category : String
  name : String
  deriving DecidableEq, Repr

/-- A kernel function, watched at its entry or at its return. -/
structure Kprobe where
  function : String
  isReturn : Bool
  deriving DecidableEq, Repr

/-- What follows a start, if the text has that start. -/
def after? (start text : String) : Option (List Char) :=
  Text.strip start.toList text.toList

/-- Programs that wait for a user-space function. -/
def isUprobe (target : String) : Bool :=
  (after? "uprobe/" target).isSome || (after? "uretprobe/" target).isSome

/-- Category and name, which may hold further slashes. -/
def tracepoint? (target : String) : Option Tracepoint := do
  let place ← (after? "tracepoint/" target).orElse fun _ => after? "tp/" target
  let (category, name) ← Text.cut '/' place
  return ⟨String.ofList category, String.ofList name⟩

def kprobe? (target : String) : Option Kprobe :=
  match after? "kretprobe/" target with
  | some function => some ⟨String.ofList function, true⟩
  | none => (after? "kprobe/" target).map fun function => ⟨String.ofList function, false⟩

/-- Types of programs, as the loader sees them. -/
inductive ProgramType where
  | tracepoint
  | kprobe
  | other
  deriving DecidableEq, Repr

/-- The type of the programs of a section; other sections do not load. -/
def programType? (target : String) : Option ProgramType :=
  let starts (words : List String) := words.any fun start => (after? start target).isSome
  if starts ["tracepoint/", "tp/"] then some .tracepoint
  else if starts ["kprobe/", "kretprobe/", "uprobe/", "uretprobe/", "uprobe.s/"] then some .kprobe
  else if starts ["raw_tp/"] || target == "xdp" || target == "socket" then some .other
  else none

end Attribution.Probe
