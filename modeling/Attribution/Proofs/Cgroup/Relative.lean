import Attribution.Proofs.Cgroup.OwnPath
import Attribution.Proofs.Cgroup.Route

/-!
Cgroups seen from within a cgroup namespace.

The kernel shows a path relative to the root of the namespace: as many steps out as the root lies below
the part that both share, then the rest of the path.  Main statement: joined onto the root, what is shown
is the path on the host again, so from wherever processes are looked at, their cgroups have one id exactly
if they are one cgroup.  A path that ends in a blank is an exception, as lines are read without the blanks
around their paths.
-/

namespace Attribution.Cgroup

variable {shared own rest root host other segments : List (List Char)} {stack : List (List Char)}
  {base path content name : String} {origin : Path} {texts : List String} {text : String} {line : Line}

/-! ### Paths segment by segment -/

/-- The step from a cgroup to the one around it. -/
def outward : List Char := ['.', '.']

def pathText (segments : List (List Char)) : String :=
  String.ofList (routeText segments)

/-- How the kernel shows a path from a namespace whose root shares all but its `own` segments with it. -/
def seenFrom (own rest : List (List Char)) : String :=
  pathText (List.replicate own.length outward ++ rest)

/-- A base spells a root; the root of the host can be spelled by nothing as well. -/
def Spells (base : String) (root : List (List Char)) : Prop :=
  base = pathText root ∨ (root = [] ∧ base = "")

theorem slashes_eq_joinWith (piece : List Char) (segments : List (List Char)) :
    piece ++ segments.flatMap ('/' :: ·) = Text.joinWith '/' (piece :: segments) := by
  induction segments generalizing piece with
  | nil => simp [Text.joinWith]
  | cons segment rest ih => rw [List.flatMap_cons, List.cons_append, ih, Text.joinWith_cons_cons]

theorem splitOn_slashes (whole : ∀ segment ∈ segments, '/' ∉ segment) :
    Text.splitOn '/' (segments.flatMap ('/' :: ·)) = [] :: segments := by
  have joined := slashes_eq_joinWith [] segments
  rw [List.nil_append] at joined
  rw [joined]
  apply Text.splitOn_joinWith (List.cons_ne_nil _ _)
  rw [List.forall_mem_cons]
  exact ⟨List.not_mem_nil, whole⟩

theorem climb_void (stack : List (List Char)) : climb stack [] = stack :=
  if_pos (.inl rfl)

theorem climb_pathText (whole : ∀ segment ∈ segments, '/' ∉ segment) (stack : List (List Char)) :
    (Text.splitOn '/' (pathText segments).toList).foldl climb stack = segments.foldl climb stack := by
  rw [pathText, String.toList_ofList]
  unfold routeText
  split
  · rename_i void
    rw [List.isEmpty_iff.1 void]
    rfl
  · rw [splitOn_slashes whole, List.foldl_cons, climb_void]

theorem climb_spelled (whole : ∀ segment ∈ root, '/' ∉ segment) (spells : Spells base root) :
    (Text.splitOn '/' base.toList).foldl climb [] = root.foldl climb [] := by
  rcases spells with rfl | ⟨rfl, rfl⟩
  · exact climb_pathText whole []
  · rfl

theorem climb_ordinary {segment : List Char} (ordinary : Ordinary segment) (stack : List (List Char)) :
    climb stack segment = segment :: stack := by
  unfold climb
  rw [if_neg (not_or.2 ⟨ordinary.filled, ordinary.notHere⟩), if_neg ordinary.notBack]

theorem foldl_climb_ordinary (ordinary : ∀ segment ∈ segments, Ordinary segment) (stack : List (List Char)) :
    segments.foldl climb stack = segments.reverse ++ stack := by
  induction segments generalizing stack with
  | nil => rfl
  | cons segment rest ih =>
    rw [List.forall_mem_cons] at ordinary
    rw [List.foldl_cons, climb_ordinary ordinary.1, ih ordinary.2, List.reverse_cons, List.append_assoc]
    rfl

theorem foldl_climb_outward (count : Nat) (stack : List (List Char)) :
    (List.replicate count outward).foldl climb stack = stack.drop count := by
  induction count generalizing stack with
  | zero => rfl
  | succ count ih =>
    have out : climb stack outward = stack.tail := rfl
    rw [List.replicate_succ, List.foldl_cons, out, ih, List.drop_tail]

/-- Steps out of the root take back its own segments, and no others. -/
theorem joinPath_seenFrom (ordinary : ∀ segment ∈ shared ++ own ++ rest, Ordinary segment)
    (spells : Spells base (shared ++ own)) : joinPath base (seenFrom own rest) = pathText (shared ++ rest) := by
  have front : ∀ segment ∈ shared ++ own, Ordinary segment :=
    fun segment member => ordinary segment (List.mem_append_left _ member)
  have back : ∀ segment ∈ rest, Ordinary segment :=
    fun segment member => ordinary segment (List.mem_append_right _ member)
  have shown : ∀ segment ∈ List.replicate own.length outward ++ rest, '/' ∉ segment := by
    intro segment member
    rcases List.mem_append.1 member with out | later
    · rw [List.eq_of_mem_replicate out]
      decide
    · exact (back segment later).whole
  have climbed : (Text.splitOn '/' base.toList ++ Text.splitOn '/' (seenFrom own rest).toList).foldl climb [] =
      rest.reverse ++ shared.reverse :=
    calc (Text.splitOn '/' base.toList ++ Text.splitOn '/' (seenFrom own rest).toList).foldl climb []
      _ = (List.replicate own.length outward ++ rest).foldl climb ((shared ++ own).reverse ++ []) := by
        rw [List.foldl_append, climb_spelled (fun _ member => (front _ member).whole) spells,
          foldl_climb_ordinary front, seenFrom, climb_pathText shown]
      _ = rest.foldl climb ((own.reverse ++ shared.reverse).drop own.length) := by
        rw [List.foldl_append, foldl_climb_outward, List.append_nil, List.reverse_append]
      _ = rest.reverse ++ shared.reverse := by
        rw [List.drop_left' List.length_reverse, foldl_climb_ordinary back]
  rw [joinPath, settle, climbed, List.reverse_append, List.reverse_reverse, List.reverse_reverse, pathText]

theorem pathText_injective (ordinary : ∀ segment ∈ host, Ordinary segment)
    (ordinaryOther : ∀ segment ∈ other, Ordinary segment) (same : pathText host = pathText other) :
    host = other := by
  have climbed := climb_pathText (fun segment member => (ordinary segment member).whole) []
  have climbedOther := climb_pathText (fun segment member => (ordinaryOther segment member).whole) []
  rw [same, climbedOther, foldl_climb_ordinary ordinary, foldl_climb_ordinary ordinaryOther, List.append_nil,
    List.append_nil] at climbed
  exact (List.reverse_injective climbed).symm

/-! ### Paths in files -/

/-- The last line of a file that bears a name. -/
def bearingText? (texts : List String) (name : String) : Option String :=
  texts.reverse.find? fun text => (Line.parse text).toOption.any fun line => line.Bears name

/-- The path of a line as it stands there: all that follows the second colon. -/
def writtenPath? (text : String) : Option (List Char) :=
  ((Text.cut ':' text.toList).bind fun fields => Text.cut ':' fields.2).map Prod.snd

/-- The path that a file shows for its process: that of `cpu`, or else the unified one. -/
def shownPath? (content : String) : Option String :=
  ((bearingText? (writtenLines content) "cpu").or (bearingText? (writtenLines content) "")).bind fun text =>
    (writtenPath? text).map String.ofList

theorem bearer?_readAll (texts : List String) (name : String) :
    bearer? (readAll texts) name = (bearingText? texts name).bind fun text => (Line.parse text).toOption := by
  rw [bearer?, readAll, ← List.filterMap_reverse, List.find?_filterMap]
  rfl

theorem path_of_parse (read : Line.parse text = .ok line) {written : List Char}
    (stands : writtenPath? text = some written) : line.path = String.ofList (Text.trim written) := by
  obtain ⟨⟨controllers, last⟩, cuts, rfl⟩ := Option.map_eq_some_iff.1 stands
  obtain ⟨⟨first, later⟩, cut, again⟩ := Option.bind_eq_some_iff.1 cuts
  rw [Line.parse, cut] at read
  simp only [Option.bind_some, again] at read
  split at read
  · cases read
  · cases read
    rfl

theorem bearer?_of_bearingText? {written : List Char} (found : bearingText? texts name = some text)
    (stands : writtenPath? text = some written) :
    ∃ line, bearer? (readAll texts) name = some line ∧ line.path = String.ofList (Text.trim written) := by
  rw [bearer?_readAll, found]
  cases read : Line.parse text with
  | ok line => exact ⟨line, by rw [Option.bind_some, read]; rfl, path_of_parse read stands⟩
  | error failure =>
    have bears := List.find?_some found
    rw [read] at bears
    cases bears

theorem select_of_shown (shown : shownPath? content = some path) (base : String) :
    ∃ generation, select (pathsOf base (entriesOf content)) =
      some (joinPath base (String.ofList (Text.trim path.toList)), generation) := by
  obtain ⟨text, decides, written⟩ := Option.bind_eq_some_iff.1 shown
  obtain ⟨raw, stands, rfl⟩ := Option.map_eq_some_iff.1 written
  rw [String.toList_ofList, select_pathsOf]
  rcases Option.or_eq_some_iff.1 decides with controller | ⟨silent, unified⟩
  · obtain ⟨line, bears, same⟩ := bearer?_of_bearingText? controller stands
    exact ⟨.v1, by rw [entriesOf, bears, ← same]; rfl⟩
  · obtain ⟨line, bears, same⟩ := bearer?_of_bearingText? unified stands
    have unborne : bearer? (readAll (writtenLines content)) "cpu" = none := by rw [bearer?_readAll, silent]; rfl
    exact ⟨.v2, by rw [entriesOf, unborne, bears, ← same]; rfl⟩

theorem ofContent_of_shown (legible : Legible content) (shown : shownPath? content = some path) (base : String)
    (origin : Path) : ∃ paths generation, ofContent base origin content =
      classified paths (joinPath base (String.ofList (Text.trim path.toList))) generation := by
  obtain ⟨generation, selected⟩ := select_of_shown shown base
  rw [ofContent_of_legible legible, selected]
  exact ⟨_, generation, rfl⟩

/-! ### Processes seen from within a namespace -/

/-- From the root of a namespace a path is shown that leads to a place on the host. -/
def Leads (root host : List (List Char)) (path : String) : Prop :=
  ∃ shared own rest, root = shared ++ own ∧ host = shared ++ rest ∧ path = seenFrom own rest

/-- A process in some cgroup of the host, with its file as it is read in a namespace. -/
structure Sighting where
  host : List (List Char)
  /-- Where the namespace begins. -/
  root : List (List Char)
  base : String
  content : String
  ordinary : ∀ segment ∈ root ++ host, Ordinary segment
  spells : Spells base root
  legible : Legible content
  leads : ∃ path, shownPath? content = some path ∧ Leads root host path

namespace Sighting

variable {sighting : Sighting}

/-- The path is read as it is shown: no blank ends it. -/
def Exact (sighting : Sighting) : Prop :=
  ∀ path ∈ shownPath? sighting.content, ∀ c ∈ path.toList.getLast?, Text.isBlank c = false

theorem exact_of_shown {path : String} (shown : shownPath? sighting.content = some path)
    (unblank : path.toList.getLast?.any Text.isBlank = false) : sighting.Exact := by
  intro other again c last
  cases shown.symm.trans again
  rwa [Option.mem_def.1 last] at unblank

theorem ordinary_host (sighting : Sighting) : ∀ segment ∈ sighting.host, Ordinary segment :=
  fun segment member => sighting.ordinary segment (List.mem_append_right _ member)

theorem head?_seenFrom (own rest : List (List Char)) : (seenFrom own rest).toList.head? = some '/' := by
  rw [seenFrom, pathText, String.toList_ofList]
  unfold routeText
  split
  · rfl
  · rename_i filled
    obtain ⟨segment, others, same⟩ := List.exists_cons_of_ne_nil (mt List.isEmpty_iff.2 filled)
    rw [same]
    rfl

theorem ofContent_eq (exact : sighting.Exact) (origin : Path) : ∃ paths generation,
    ofContent sighting.base origin sighting.content = classified paths (pathText sighting.host) generation := by
  obtain ⟨path, shown, shared, own, rest, atRoot, atHost, rfl⟩ := sighting.leads
  have ordinary : ∀ segment ∈ shared ++ own ++ rest, Ordinary segment := by
    intro segment member
    apply sighting.ordinary
    rw [atRoot, atHost]
    simp only [List.mem_append] at member ⊢
    tauto
  have trimmed : Text.trim (seenFrom own rest).toList = (seenFrom own rest).toList := by
    apply Text.trim_eq_self
    · rw [head?_seenFrom]
      rintro c ⟨⟩
      rfl
    · exact exact _ shown
  have resolved := ofContent_of_shown sighting.legible shown sighting.base origin
  rwa [trimmed, String.ofList_toList, joinPath_seenFrom ordinary (atRoot ▸ sighting.spells), ← atHost] at resolved

theorem id_eq (exact : sighting.Exact) {cgroup : Cgroup}
    (read : ofContent sighting.base origin sighting.content = .ok cgroup) : cgroup.id = pathText sighting.host := by
  obtain ⟨paths, generation, same⟩ := ofContent_eq exact origin
  exact id_of_classified (same.symm.trans read)

end Sighting

/-- Joined onto the root of its namespace a shown path is the path on the host; so a process whose path does
not end in a blank comes to the id of its cgroup on the host, from wherever it is seen, or fails by that path,
and two such processes come to one id exactly if they are in one cgroup. -/
theorem relative_paths_restored :
    (∀ shared own rest base, (∀ segment ∈ shared ++ own ++ rest, Ordinary segment) →
      Spells base (shared ++ own) → joinPath base (seenFrom own rest) = pathText (shared ++ rest)) ∧
    (∀ (sighting : Sighting) (origin : Path), sighting.Exact → ∃ paths generation,
      ofContent sighting.base origin sighting.content = classified paths (pathText sighting.host) generation) ∧
    ∀ (first second : Sighting) (origin another : Path) (one two : Cgroup), first.Exact → second.Exact →
      ofContent first.base origin first.content = .ok one →
      ofContent second.base another second.content = .ok two → (one.id = two.id ↔ first.host = second.host) := by
  refine ⟨fun _ _ _ _ => joinPath_seenFrom, fun _ origin exact => Sighting.ofContent_eq exact origin, ?_⟩
  intro first second origin another one two exactFirst exactSecond read alsoRead
  rw [Sighting.id_eq exactFirst read, Sighting.id_eq exactSecond alsoRead]
  constructor
  · exact pathText_injective first.ordinary_host second.ordinary_host
  · exact congrArg pathText

/-! ### A service seen from another one and from the host -/

def unifiedFile (path : String) : String :=
  "0::" ++ path ++ "\n"

def serviceHost (unit : String) : List (List Char) :=
  ["system.slice".toList, unit.toList]

theorem shownPath?_agent : shownPath? (unifiedFile "/../nginx.service") = some "/../nginx.service" := by
  decide +kernel

theorem shownPath?_host : shownPath? (unifiedFile "/system.slice/nginx.service") =
    some "/system.slice/nginx.service" := by
  decide +kernel

def seenFromAgent : Sighting where
  host := serviceHost "nginx.service"
  root := serviceHost "agent.service"
  base := "/system.slice/agent.service"
  content := unifiedFile "/../nginx.service"
  ordinary := by decide
  spells := .inl (by decide +kernel)
  legible := by decide +kernel
  leads := ⟨"/../nginx.service", shownPath?_agent, ["system.slice".toList], ["agent.service".toList],
    ["nginx.service".toList], rfl, rfl, by decide +kernel⟩

def seenFromHost : Sighting where
  host := serviceHost "nginx.service"
  root := []
  base := ""
  content := unifiedFile "/system.slice/nginx.service"
  ordinary := by decide
  spells := .inr ⟨rfl, rfl⟩
  legible := by decide +kernel
  leads := ⟨"/system.slice/nginx.service", shownPath?_host, [], [], serviceHost "nginx.service", rfl, rfl,
    by decide +kernel⟩

theorem classified_nginx (paths : Table String String) (generation : Generation) :
    ∃ cgroup, classified paths (pathText (serviceHost "nginx.service")) generation = .ok cgroup ∧
      cgroup.id = "/system.slice/nginx.service" := by
  have same : pathText (serviceHost "nginx.service") = "/system.slice/nginx.service" := by decide +kernel
  have told : classify "/system.slice/nginx.service" = .ok (.systemd, "/system.slice/nginx.service") := by
    decide +kernel
  rw [same, classified, told]
  exact ⟨_, rfl, rfl⟩

theorem service_seen_from_two_places : seenFromAgent.Exact ∧ seenFromHost.Exact ∧ ∃ one two : Cgroup,
    ofContent "/system.slice/agent.service" "/proc/7/cgroup" (unifiedFile "/../nginx.service") = .ok one ∧
      ofContent "" "/proc/8/cgroup" (unifiedFile "/system.slice/nginx.service") = .ok two ∧ one.id = two.id := by
  have exact : seenFromAgent.Exact := Sighting.exact_of_shown shownPath?_agent (by decide +kernel)
  have alsoExact : seenFromHost.Exact := Sighting.exact_of_shown shownPath?_host (by decide +kernel)
  obtain ⟨-, resolved, together⟩ := relative_paths_restored
  obtain ⟨paths, generation, read⟩ := resolved seenFromAgent "/proc/7/cgroup" exact
  obtain ⟨others, another, alsoRead⟩ := resolved seenFromHost "/proc/8/cgroup" alsoExact
  obtain ⟨one, found, -⟩ := classified_nginx paths generation
  obtain ⟨two, alsoFound, -⟩ := classified_nginx others another
  have first := read.trans found
  have second := alsoRead.trans alsoFound
  exact ⟨exact, alsoExact, one, two, first, second, (together _ _ _ _ _ _ exact alsoExact first second).2 rfl⟩

/-- A cgroup whose name ends in a blank. -/
def seenWithBlank : Sighting where
  host := serviceHost "nginx.service "
  root := []
  base := ""
  content := unifiedFile "/system.slice/nginx.service "
  ordinary := by decide
  spells := .inr ⟨rfl, rfl⟩
  legible := by decide +kernel
  leads := ⟨"/system.slice/nginx.service ", by decide +kernel, [], [], serviceHost "nginx.service ", rfl, rfl,
    by decide +kernel⟩

/-- The blank at the end of a path is not read, so two cgroups of the host can come to one id. -/
theorem not_always_told_apart :
    ¬∀ (first second : Sighting) (origin another : Path) (one two : Cgroup),
      ofContent first.base origin first.content = .ok one →
      ofContent second.base another second.content = .ok two → (one.id = two.id ↔ first.host = second.host) := by
  intro always
  -- both paths are read as the one without a blank
  have read (sighting : Sighting) {path : String} (shown : shownPath? sighting.content = some path)
      (trimmed : joinPath sighting.base (String.ofList (Text.trim path.toList)) =
        pathText (serviceHost "nginx.service")) :
      ∃ cgroup, ofContent sighting.base "/proc/7/cgroup" sighting.content = .ok cgroup ∧
        cgroup.id = "/system.slice/nginx.service" := by
    obtain ⟨paths, generation, resolved⟩ := ofContent_of_shown sighting.legible shown sighting.base "/proc/7/cgroup"
    rw [resolved, trimmed]
    exact classified_nginx paths generation
  have shownBlank : shownPath? seenWithBlank.content = some "/system.slice/nginx.service " := by decide +kernel
  obtain ⟨one, found, same⟩ := read seenFromHost shownPath?_host (by decide +kernel)
  obtain ⟨two, alsoFound, alsoSame⟩ := read seenWithBlank shownBlank (by decide +kernel)
  have together := (always _ _ _ _ _ _ found alsoFound).1 (same.trans alsoSame.symm)
  exact absurd together (by decide)

end Attribution.Cgroup
