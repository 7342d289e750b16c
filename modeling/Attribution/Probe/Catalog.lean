import Attribution.Kernel.Version
import Attribution.Probe.Error

/-!
The catalog of instrumentation images, and which image a kernel gets.

Images lie under `<directory>/<architecture>` and are named for the least kernel they support.
-/

namespace Attribution.Probe

structure Image where
  minKernel : Kernel.Version
  path : Path
  deriving DecidableEq, Repr

/-- The image that an entry of the catalog is, if its name ends in `.o` and starts with a version. -/
def imageOf? (directory : Path) (name : String) : Option Image :=
  match Path.splitName name.toList with
  | (stem, some ['o']) => (Kernel.Version.read? stem).map (⟨·, directory / ⟨name⟩⟩)
  | _ => none

/-- All images for an architecture; there is at least one. -/
def listImages (tree : Files.Tree) (directory : Path) (architecture : String) :
    Except Error (List Image) :=
  let place := directory / ⟨architecture⟩
  match tree.list place with
  | .error _ => .error (.unsupportedArchitecture architecture)
  | .ok found =>
    let images := found.filterMap fun (name, _) => imageOf? place name
    if images = [] then .error (.unsupportedArchitecture architecture) else .ok images

/-- The later of two images, the second one if they are equally late. -/
def later (best : Option Image) (image : Image) : Option Image :=
  match best with
  | none => some image
  | some other => if other.minKernel ≤ image.minKernel then some image else some other

/-- The latest image that a kernel satisfies. -/
def selectImage (images : List Image) (kernel : Kernel.Version) : Option Image :=
  (images.filter fun image => image.minKernel ≤ kernel).foldl later none

/-- The image for a kernel release. The tracing directory is looked for last. -/
def resolveImage (tree : Files.Tree) (directory tracing : Path) (architecture release : String) :
    Except Error Image := do
  let images ← listImages tree directory architecture
  match (Kernel.Version.read? release.toList).bind (selectImage images) with
  | none => .error (.unsupportedKernel release)
  | some image =>
    match tree.stat tracing with
    | .error fault => .error (.tracingUnavailable tracing fault)
    | .ok _ => .ok image

end Attribution.Probe
