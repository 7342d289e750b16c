import Attribution.Proofs.Files.Listing
import Attribution.Proofs.Kernel.Version
import Attribution.Probe.Catalog

/-!
Which image a kernel gets.

Images are looked through one by one, in the order in which their directory lists them, and the latest one
that the kernel satisfies is kept.  Main statement: a release resolves to such an image exactly if nothing
stands in its way, and otherwise the first obstacle is reported; the order of the directory decides at most
between images for the same kernels.
-/

namespace Attribution.Probe

open Kernel (Version)

/-! ### The latest image -/

/-- The latest of some images, if there are any. -/
inductive Latest : List Image → Option Image → Prop
  | empty : Latest [] none
  | image {images : List Image} {image : Image} (listed : image ∈ images)
      (bound : ∀ other ∈ images, other.minKernel ≤ image.minKernel) : Latest images (some image)

variable {images others seen : List Image} {image other : Image} {best : Option Image} {kernel : Version}

theorem Latest.snoc (latest : Latest seen best) (image : Image) :
    Latest (seen ++ [image]) (later best image) := by
  cases latest with
  | empty =>
    refine .image (List.mem_singleton_self image) ?_
    intro other member
    rw [List.nil_append, List.mem_singleton] at member
    rw [member]
    exact Nat.le_refl _
  | image listed bound =>
    rename_i best
    by_cases newer : best.minKernel ≤ image.minKernel
    · rw [later, if_pos newer]
      refine .image (List.mem_append_right seen (List.mem_singleton_self image)) ?_
      intro other member
      rcases List.mem_append.1 member with earlier | last
      · exact Nat.le_trans (bound other earlier) newer
      · rw [List.mem_singleton.1 last]
        exact Nat.le_refl _
    · rw [later, if_neg newer]
      refine .image (List.mem_append_left [image] listed) ?_
      intro other member
      rcases List.mem_append.1 member with earlier | last
      · exact bound other earlier
      · rw [List.mem_singleton.1 last]
        exact Nat.le_of_lt (Nat.lt_of_not_ge newer)

theorem Latest.foldl (latest : Latest seen best) (images : List Image) :
    Latest (seen ++ images) (images.foldl later best) := by
  induction images generalizing seen best with
  | nil => rwa [List.append_nil]
  | cons image images ih =>
    have further := ih (latest.snoc image)
    rwa [List.append_assoc, List.singleton_append] at further

theorem Latest.eq_nil (latest : Latest images none) : images = [] := by
  cases latest
  rfl

theorem Latest.listed (latest : Latest images (some image)) : image ∈ images := by
  cases latest
  assumption

theorem Latest.bound (latest : Latest images (some image)) (member : other ∈ images) :
    other.minKernel ≤ image.minKernel := by
  cases latest with
  | image _ bound => exact bound other member

/-- A listed image that the kernel satisfies, and no later one is listed that it satisfies too. -/
structure Best (images : List Image) (kernel : Version) (image : Image) : Prop where
  listed : image ∈ images
  satisfied : image.minKernel ≤ kernel
  latest : ∀ other ∈ images, other.minKernel ≤ kernel → other.minKernel ≤ image.minKernel

theorem latest_selectImage (images : List Image) (kernel : Version) :
    Latest (images.filter fun image => image.minKernel ≤ kernel) (selectImage images kernel) :=
  Latest.empty.foldl _

theorem best_of_selectImage (selected : selectImage images kernel = some image) : Best images kernel image := by
  have latest := latest_selectImage images kernel
  rw [selected] at latest
  obtain ⟨member, satisfied⟩ := List.mem_filter.1 latest.listed
  refine ⟨member, of_decide_eq_true satisfied, ?_⟩
  intro other member satisfied
  exact latest.bound (List.mem_filter.2 ⟨member, decide_eq_true satisfied⟩)

theorem selectImage_eq_none_iff :
    selectImage images kernel = none ↔ ∀ image ∈ images, ¬image.minKernel ≤ kernel := by
  constructor
  · intro selected image member satisfied
    have latest := latest_selectImage images kernel
    rw [selected] at latest
    exact List.filter_eq_nil_iff.1 latest.eq_nil image member (decide_eq_true satisfied)
  · intro none
    cases selected : selectImage images kernel with
    | none => rfl
    | some image =>
      have best := best_of_selectImage selected
      exact absurd best.satisfied (none image best.listed)

theorem Best.unique (here : Best images kernel image) (there : Best others kernel other)
    (same : ∀ image, image ∈ images ↔ image ∈ others) : image.minKernel = other.minKernel := by
  apply Version.rank_injective
  apply Nat.le_antisymm
  · exact there.latest image ((same image).1 here.listed) here.satisfied
  · exact here.latest other ((same other).2 there.listed) there.satisfied

/-! ### Resolution -/

section Resolves

variable (tree : Files.Tree) (directory tracing : Path) (architecture release : String)

/-- What a release resolves to: the first obstacle that there is, or one of the best images. -/
inductive Resolves : Except Error Image → Prop
  | unlisted (none : ∀ images, listImages tree directory architecture ≠ .ok images) :
      Resolves (.error (.unsupportedArchitecture architecture))
  | unsatisfied {images : List Image} (listed : listImages tree directory architecture = .ok images)
      (none : ∀ kernel, Version.parse release = .ok kernel → ∀ image ∈ images, ¬image.minKernel ≤ kernel) :
      Resolves (.error (.unsupportedKernel release))
  | untraceable {images : List Image} {kernel : Version} {image : Image} {fault : Files.Fault}
      (listed : listImages tree directory architecture = .ok images) (read : Version.parse release = .ok kernel)
      (member : image ∈ images) (satisfied : image.minKernel ≤ kernel) (missing : tree.stat tracing = .error fault) :
      Resolves (.error (.tracingUnavailable tracing fault))
  | image {images : List Image} {kernel : Version} {image : Image} {entry : Files.Entry}
      (listed : listImages tree directory architecture = .ok images) (read : Version.parse release = .ok kernel)
      (best : Best images kernel image) (present : tree.stat tracing = .ok entry) : Resolves (.ok image)

end Resolves

variable {tree again : Files.Tree} {directory tracing : Path} {architecture release : String}
  {result : Except Error Image}

theorem listImages_error {failure : Error} (failed : listImages tree directory architecture = .error failure) :
    failure = .unsupportedArchitecture architecture := by
  unfold listImages at failed
  simp only at failed
  split at failed
  · cases failed
    rfl
  · split at failed
    · cases failed
      rfl
    · cases failed

theorem resolveImage_of_listed (listed : listImages tree directory architecture = .ok images) :
    resolveImage tree directory tracing architecture release =
      match (Version.read? release.toList).bind (selectImage images) with
      | none => .error (.unsupportedKernel release)
      | some image =>
        match tree.stat tracing with
        | .error fault => .error (.tracingUnavailable tracing fault)
        | .ok _ => .ok image := by
  rw [resolveImage, listed]
  rfl

theorem resolves_resolveImage (tree : Files.Tree) (directory tracing : Path) (architecture release : String) :
    Resolves tree directory tracing architecture release
      (resolveImage tree directory tracing architecture release) := by
  cases listed : listImages tree directory architecture with
  | error failure =>
    obtain rfl := listImages_error listed
    rw [resolveImage, listed]
    refine .unlisted fun images again => ?_
    rw [listed] at again
    cases again
  | ok images =>
    rw [resolveImage_of_listed listed]
    cases read : Version.read? release.toList with
    | none =>
      refine .unsatisfied listed fun kernel parsed => ?_
      rw [Version.parse_eq_ok_iff, read] at parsed
      cases parsed
    | some kernel =>
      have parsed : Version.parse release = .ok kernel := Version.parse_eq_ok_iff.2 read
      rw [Option.bind_some]
      cases selected : selectImage images kernel with
      | none =>
        refine .unsatisfied listed fun other again => ?_
        obtain rfl : kernel = other := Except.ok.inj (parsed.symm.trans again)
        exact selectImage_eq_none_iff.1 selected
      | some image =>
        have best := best_of_selectImage selected
        cases present : tree.stat tracing with
        | error fault => exact .untraceable listed parsed best.listed best.satisfied present
        | ok entry => exact .image listed parsed best present

/-- A release resolves in one way, but for the choice between images for the same kernels. -/
theorem Resolves.eq (resolves : Resolves tree directory tracing architecture release result) :
    (resolveImage tree directory tracing architecture release).map (·.minKernel) = result.map (·.minKernel) := by
  cases resolves with
  | unlisted none =>
    cases listed : listImages tree directory architecture with
    | error failure =>
      obtain rfl := listImages_error listed
      rw [resolveImage, listed]
      rfl
    | ok images => exact absurd listed (none images)
  | unsatisfied listed none =>
    rw [resolveImage_of_listed listed]
    cases read : Version.read? release.toList with
    | none => rfl
    | some kernel =>
      rw [Option.bind_some, selectImage_eq_none_iff.2 (none kernel (Version.parse_eq_ok_iff.2 read))]
  | untraceable listed read member satisfied missing =>
    rw [resolveImage_of_listed listed, Version.parse_eq_ok_iff.1 read, Option.bind_some]
    cases selected : selectImage _ _ with
    | none => exact absurd satisfied (selectImage_eq_none_iff.1 selected _ member)
    | some image => simp only [missing]
  | image listed read best present =>
    rw [resolveImage_of_listed listed, Version.parse_eq_ok_iff.1 read, Option.bind_some]
    cases selected : selectImage _ _ with
    | none => exact absurd best.satisfied (selectImage_eq_none_iff.1 selected _ best.listed)
    | some image =>
      simp only [present]
      exact congrArg Except.ok ((best_of_selectImage selected).unique best fun _ => Iff.rfl)

/-! ### Directories in any order -/

theorem listImages_eq_ok_iff : listImages tree directory architecture = .ok images ↔
    ∃ found, tree.list (directory / ⟨architecture⟩) = .ok found ∧ images ≠ [] ∧
      found.filterMap (fun (name, _) => imageOf? (directory / ⟨architecture⟩) name) = images := by
  rw [listImages]
  simp only
  cases tree.list (directory / ⟨architecture⟩) with
  | error fault =>
    constructor
    · rintro ⟨⟩
    · rintro ⟨found, ⟨⟩, -⟩
  | ok found =>
    simp only
    split
    next empty =>
      constructor
      · rintro ⟨⟩
      · rintro ⟨_, ⟨⟩, some, rfl⟩
        exact absurd empty some
    next some =>
      constructor
      · rintro ⟨⟩
        exact ⟨found, rfl, some, rfl⟩
      · rintro ⟨_, ⟨⟩, -, rfl⟩
        rfl

theorem listImages_rearranged (same : tree.Rearranged again)
    (listed : listImages tree directory architecture = .ok images) :
    ∃ others, listImages again directory architecture = .ok others ∧ images.Perm others := by
  obtain ⟨found, read, some, rfl⟩ := listImages_eq_ok_iff.1 listed
  obtain ⟨turned, reread, perm⟩ := same.list read
  refine ⟨_, listImages_eq_ok_iff.2 ⟨turned, reread, ?_, rfl⟩, perm.filterMap _⟩
  exact fun none => some (List.perm_nil.1 (none ▸ perm.filterMap _))

theorem Resolves.rearranged (same : tree.Rearranged again)
    (resolves : Resolves tree directory tracing architecture release result) :
    Resolves again directory tracing architecture release result := by
  cases resolves with
  | unlisted none =>
    refine .unlisted fun images listed => ?_
    obtain ⟨others, relisted, -⟩ := listImages_rearranged same.symm listed
    exact none others relisted
  | unsatisfied listed none =>
    obtain ⟨others, relisted, perm⟩ := listImages_rearranged same listed
    exact .unsatisfied relisted fun kernel read image member => none kernel read image (perm.mem_iff.2 member)
  | untraceable listed read member satisfied missing =>
    obtain ⟨others, relisted, perm⟩ := listImages_rearranged same listed
    exact .untraceable relisted read (perm.mem_iff.1 member) satisfied (same.stat tracing ▸ missing)
  | image listed read best present =>
    obtain ⟨others, relisted, perm⟩ := listImages_rearranged same listed
    refine .image relisted read ?_ (same.stat tracing ▸ present)
    exact ⟨perm.mem_iff.1 best.listed, best.satisfied, fun other member => best.latest other (perm.mem_iff.2 member)⟩

theorem exists_image_iff : (∃ image, resolveImage tree directory tracing architecture release = .ok image) ↔
    ∃ images kernel, listImages tree directory architecture = .ok images ∧ Version.parse release = .ok kernel ∧
      (∃ image ∈ images, image.minKernel ≤ kernel) ∧ ∃ entry, tree.stat tracing = .ok entry := by
  have resolves := resolves_resolveImage tree directory tracing architecture release
  constructor
  · rintro ⟨image, resolved⟩
    rw [resolved] at resolves
    cases resolves with
    | image listed read best present =>
      exact ⟨_, _, listed, read, ⟨image, best.listed, best.satisfied⟩, _, present⟩
  · rintro ⟨images, kernel, listed, read, ⟨image, member, satisfied⟩, entry, present⟩
    generalize resolveImage tree directory tracing architecture release = result at resolves
    cases resolves with
    | unlisted none => exact absurd listed (none images)
    | unsatisfied relisted none =>
      obtain rfl := Except.ok.inj (listed.symm.trans relisted)
      exact absurd satisfied (none kernel read image member)
    | untraceable _ _ _ _ missing =>
      rw [present] at missing
      cases missing
    | image => exact ⟨_, rfl⟩

/-- A release resolves to a best image, or its first obstacle is reported, and there is no obstacle exactly if
images are listed, one of them is for kernels like that of the release, and there is something at the place
for tracing.  Which kernels the image is for, and which obstacle is reported, does not depend on the order in
which a file system lists its entries, and each order of the images' directory comes from such an order. -/
theorem resolution_optimal (tree : Files.Tree) (directory tracing : Path) (architecture release : String) :
    Resolves tree directory tracing architecture release
        (resolveImage tree directory tracing architecture release) ∧
      ((∃ image, resolveImage tree directory tracing architecture release = .ok image) ↔
        ∃ images kernel, listImages tree directory architecture = .ok images ∧
          Version.parse release = .ok kernel ∧ (∃ image ∈ images, image.minKernel ≤ kernel) ∧
          ∃ entry, tree.stat tracing = .ok entry) ∧
      (∀ again, tree.Rearranged again →
        (resolveImage again directory tracing architecture release).map (·.minKernel) =
          (resolveImage tree directory tracing architecture release).map (·.minKernel)) ∧
      ∀ found turned, tree.list (directory / ⟨architecture⟩) = .ok found → found.Perm turned →
        ∃ again, tree.Rearranged again ∧ again.list (directory / ⟨architecture⟩) = .ok turned := by
  have resolves := resolves_resolveImage tree directory tracing architecture release
  refine ⟨resolves, exists_image_iff, ?_, ?_⟩
  · exact fun again same => (resolves.rearranged same).eq
  · exact fun found turned listed perm => Files.Tree.exists_rearranged listed perm

/-- A catalog with two images for the same kernels, and one that comes first by its name but not by its number. -/
def shelf : Files.Tree :=
  ⟨.ofList [(["tracing"], .directory), (["x86_64"], .directory), (["x86_64", "5.10.o"], .file []),
    (["x86_64", "v4.16.o"], .file []), (["x86_64", "v5.10.o"], .file []), (["x86_64", "v5.9.o"], .file [])]⟩

def shelfTurned : Files.Tree :=
  ⟨⟨shelf.entries.entries.reverse, by decide⟩⟩

theorem resolve_shelf : resolveImage shelf "/" "/tracing" "x86_64" "5.15.0-91-generic" =
    .ok ⟨⟨5, 10⟩, "/x86_64/5.10.o"⟩ := by
  have stands : shelf.find true ("/" / ⟨"x86_64"⟩) = .ok (["x86_64"], .directory) :=
    Files.Tree.find_names (by decide +kernel) (by decide) rfl (by simp)
  have found : shelf.list ("/" / ⟨"x86_64"⟩) = .ok [("v5.9.o", .file []), ("v5.10.o", .file []),
      ("v4.16.o", .file []), ("5.10.o", .file [])] := by
    rw [Files.Tree.list, stands]
    rfl
  have listed : listImages shelf "/" "x86_64" = .ok [⟨⟨5, 9⟩, "/x86_64/v5.9.o"⟩, ⟨⟨5, 10⟩, "/x86_64/v5.10.o"⟩,
      ⟨⟨4, 16⟩, "/x86_64/v4.16.o"⟩, ⟨⟨5, 10⟩, "/x86_64/5.10.o"⟩] :=
    listImages_eq_ok_iff.2 ⟨_, found, by simp, by decide +kernel⟩
  have read : Version.read? "5.15.0-91-generic".toList = some ⟨5, 15⟩ := by decide +kernel
  have traced : shelf.find true "/tracing" = .ok (["tracing"], .directory) :=
    Files.Tree.find_names (by decide +kernel) (by decide) rfl (by simp)
  rw [resolveImage_of_listed listed, read, Files.Tree.stat, traced]
  decide +kernel

theorem shelf_in_any_order : shelf.Rearranged shelfTurned ∧
    resolveImage shelf "/" "/tracing" "x86_64" "5.15.0-91-generic" = .ok ⟨⟨5, 10⟩, "/x86_64/5.10.o"⟩ ∧
    (resolveImage shelfTurned "/" "/tracing" "x86_64" "5.15.0-91-generic").map (·.minKernel) = .ok ⟨5, 10⟩ := by
  have same : shelf.Rearranged shelfTurned := (List.reverse_perm _).symm
  obtain ⟨-, -, rearranged, -⟩ := resolution_optimal shelf "/" "/tracing" "x86_64" "5.15.0-91-generic"
  refine ⟨same, resolve_shelf, ?_⟩
  rw [rearranged shelfTurned same, resolve_shelf]
  rfl

end Attribution.Probe
