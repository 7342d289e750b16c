/-! What an instrumentation image holds. -/

namespace Attribution.Probe

/-- A program and the section that says where it attaches. -/
structure Program where
  name : String
  target : String
  deriving DecidableEq, Repr

/-- Kinds of kernel maps. -/
inductive MapKind where
  | perf
  | array
  deriving DecidableEq, Repr

structure KernelMap where
  name : String
  kind : MapKind
  deriving DecidableEq, Repr

/-- Programs and maps in the order in which the image lists them. -/
structure Object where
  programs : List Program
  maps : List KernelMap
  deriving DecidableEq, Repr

end Attribution.Probe
