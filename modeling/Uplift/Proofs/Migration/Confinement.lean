import Uplift.Proofs.Files.Escape
import Uplift.Proofs.Migration.Licence

/-!
# What the file tools reach

The text of a path is all that the file tools look at before they use it: they refuse it if it is
absolute or goes up (`resolve_outside_iff`). The tree follows symbolic links, so what is read,
made or changed lies in the project unless a link of the project on the way of the path leads out of
it (`performAll_confined`); without links it always does (`performAll_inside`).
-/

namespace Uplift.Migration

open Uplift.Files

/-- The path that a use is about. -/
def ToolUse.Takes (u : ToolUse) (path : String) : Prop :=
  u.meant = .ok (.read path) ∨ ∃ content, u.meant = .ok (.write path content)

namespace FileTools

variable {f f' : FileTools} {t t' : Tree} {u v : ToolUse} {result : Except ProviderError String}
  {root path : String} {base : Place} {names : List String}

/-! ## Refusals -/

theorem namesOf_eq_none_iff {steps : List Step} :
    namesOf steps = none ↔ .root ∈ steps ∨ .up ∈ steps := by
  induction steps with
  | nil => simp [namesOf]
  | cons step steps ih => cases step <;> simp [namesOf, ih]

/-- A path is refused for leading out of the project if its text does. -/
theorem resolve_outside_iff : resolve path = .error (.outside path) ↔
    Text.trimmed path ≠ "" ∧
      (isAbsolute (Text.trimmed path) = true ∨ ".." ∈ segments (Text.trimmed path)) := by
  by_cases empty : Text.trimmed path = ""
  · simp [resolve, empty]
  · rw [← root_mem_parts_iff empty, ← up_mem_parts_iff empty, ← namesOf_eq_none_iff]
    cases names : namesOf (parts (Text.trimmed path)) <;> simp [resolve, empty, names]

/-- A use does what it stands for. -/
theorem perform_of_meant (meant : u.meant = .ok v) : f.perform u t = f.perform v t := by
  cases u with
  | read path | write path content =>
    obtain rfl := Except.ok.inj meant
    rfl
  | call name arguments =>
    rw [ToolUse.meant_call] at meant
    exact perform_call meant fun name' arguments' same =>
      useOf_ne_call name arguments name' arguments' (same ▸ meant)

/-- A use is refused for leading out of the project if and only if its path is. -/
theorem perform_outside_iff (takes : u.Takes path) :
    (f.perform u t).1 = .error (.toolCall (.outside path)) ↔
      resolve path = .error (.outside path) := by
  rcases takes with meant | ⟨content, meant⟩
  · rw [perform_of_meant meant, perform_read, read]
    cases resolved : resolve path with
    | error fault => simp
    | ok names => cases text : textOf t (f.pathOf names) <;> simp [text]
  · rw [perform_of_meant meant, perform_write, write]
    cases resolved : resolve path with
    | error fault => simp
    | ok names =>
      by_cases licensed : names ∈ f.licensed
      · rcases written : t.writeTextIn (parent? (f.pathOf names)) (f.pathOf names) content with
          ⟨⟨failed, e⟩ | ⟨⟩, t'⟩ <;> simp [licensed, written]
      · simp [licensed]

/-! ## Uses -/

/-- The tools are those of a project that is there, and no licence is for the project itself. -/
structure Rooted (root : String) (base : Place) (f : FileTools) (t : Tree) : Prop where
  root_eq : f.root = root
  rootDir : t.RootDir root base
  below : ∀ names ∈ f.licensed, names ≠ []

theorem Rooted.new (rootDir : t.RootDir root base) : Rooted root base { root } t where
  root_eq := rfl
  rootDir := rootDir
  below names member := by cases member

theorem Rooted.performs (rooted : Rooted root base f t) (performs : Performs f t u result f' t') :
    Rooted root base f' t' := by
  have spent (names : List String) : ∀ other ∈ (f.spend names).licensed, other ≠ [] :=
    fun other member => rooted.below other (List.mem_of_mem_filter member)
  cases performs with
  | @read path names text _ _ read =>
    refine ⟨rooted.root_eq, rooted.rootDir, fun other member => ?_⟩
    rcases List.mem_cons.mp member with rfl | old
    · -- The project itself is a directory, which is not read.
      rintro rfl
      have dir := rooted.rootDir.dir
      have located : t.locate (f.pathOf []) = .ok base := by
        rw [pathOf, rooted.root_eq]
        exact rooted.rootDir.located
      simp [textOf, Tree.readText, Tree.readBytes, located, dir, bind, Except.bind] at read
    · exact spent names other old
  | write _ _ _ written | writeFails _ _ _ written =>
    exact ⟨rooted.root_eq, rooted.rootDir.writeTextIn written, spent _⟩
  | readFails | refused => exact rooted

theorem Rooted.performAll (rooted : Rooted root base f t) (uses : List ToolUse) :
    Rooted root base (f.performAll t uses).2.1 (f.performAll t uses).2.2 := by
  induction uses generalizing f t with
  | nil => exact rooted
  | cons u uses ih => exact ih (rooted.performs (perform_performs f t u))

/-- What is read is what the names of the path lead to. -/
theorem Rooted.read_inside (rooted : Rooted root base f t) {text : String}
    (resolved : resolve path = .ok names) (read : textOf t (f.pathOf names) = .ok text) :
    (∃ q, t.walk true Tree.maxLinks base names = .ok q ∧ HoldsText t q text ∧
        (base <+: q ∨ t.LeadsOut base names)) ∨
      (t.locate (f.pathOf names) = .error .notFound ∧ text = "") := by
  refine (textOf_cases read).imp_left ?_
  rintro ⟨q, located, holds⟩
  have proper := properNames_of_resolve resolved
  rw [pathOf, rooted.root_eq] at located
  have leads : t.Leads true Tree.maxLinks base names q := by
    by_cases below : names = []
    · subst below
      obtain rfl := Except.ok.inj (located.symm.trans rooted.rootDir.located)
      exact .here
    · exact rooted.rootDir.leads_below proper below located
  exact ⟨q, leads.walk_eq, holds, leads.inside_or_out proper⟩

/-- What a write changes is where the first names of its path come to. -/
theorem Rooted.write_inside (rooted : Rooted root base f t) {content : String} {q : Place}
    (resolved : resolve path = .ok names) (licensed : names ∈ f.licensed)
    (attempted : (t.writeTextIn (parent? (f.pathOf names)) (f.pathOf names) content).2 = t')
    (changed : t'.get? q ≠ t.get? q) :
    ∃ first, first <+: names ∧ t.Reaches base first q ∧
      (base <+: q ∨ t.LeadsOut base names) := by
  have proper := properNames_of_resolve resolved
  rw [pathOf, rooted.root_eq] at attempted
  subst attempted
  obtain ⟨first, ⟨more, rfl⟩, reaches⟩ :=
    Tree.writeTextIn_changes rooted.rootDir proper (rooted.below names licensed) content q changed
  exact ⟨first, List.prefix_append _ _, reaches,
    (reaches.inside_or_out proper.front).imp_right (·.append more)⟩

/-! ## The reach of the tools -/

/-- What the next use of the tools reaches. -/
structure Confined (base : Place) (f : FileTools) (t : Tree) (u : ToolUse) : Prop where
  /-- A path is refused for leading out of the project if its text does, whatever links are on its
  way. -/
  refused : ∀ path, u.Takes path →
    ((f.perform u t).1 = .error (.toolCall (.outside path)) ↔ Text.trimmed path ≠ "" ∧
      (isAbsolute (Text.trimmed path) = true ∨ ".." ∈ segments (Text.trimmed path)))
  /-- A use that is refused does nothing. -/
  untouched : ∀ fault, (f.perform u t).1 = .error (.toolCall fault) → (f.perform u t).2 = (f, t)
  /-- A file that is read lies in the project, unless a link on the way leads out. -/
  read : ∀ path text, u.meant = .ok (.read path) → (f.perform u t).1 = .ok text →
    ∃ names, resolve path = .ok names ∧
      ((∃ q, t.walk true Tree.maxLinks base names = .ok q ∧ HoldsText t q text ∧
          (base <+: q ∨ t.LeadsOut base names)) ∨
        (t.locate (f.pathOf names) = .error .notFound ∧ text = ""))
  /-- What is made or changed lies in the project, unless a link on the way leads out. -/
  changed : ∀ q, (f.perform u t).2.2.get? q ≠ t.get? q →
    ∃ path content names first, u.meant = .ok (.write path content) ∧ resolve path = .ok names ∧
      first <+: names ∧ t.Reaches base first q ∧ (base <+: q ∨ t.LeadsOut base names)

theorem Rooted.confined (rooted : Rooted root base f t) (u : ToolUse) : Confined base f t u := by
  have performs := perform_performs f t u
  refine ⟨fun path takes => (perform_outside_iff takes).trans resolve_outside_iff, ?_, ?_, ?_⟩ <;>
    generalize f.perform u t = run at performs ⊢ <;> obtain ⟨result, f', t'⟩ := run
  · rintro fault rfl
    cases performs
    rfl
  · rintro path text meant rfl
    cases performs with
    | read meant' resolved read =>
      obtain rfl := ToolUse.read.inj (Except.ok.inj (meant.symm.trans meant'))
      exact ⟨_, resolved, rooted.read_inside resolved read⟩
    | write meant' => cases meant.symm.trans meant'
  · intro q changed
    cases performs with
    | read | readFails | refused => exact absurd rfl changed
    | write meant resolved licensed written | writeFails meant resolved licensed written =>
      obtain ⟨first, isFirst, reaches, inside⟩ :=
        rooted.write_inside resolved licensed (congrArg Prod.snd written) changed
      exact ⟨_, _, _, first, meant, resolved, isFirst, reaches, inside⟩

/-- After any uses of new tools on a project, what the next use reads, makes or changes lies in the
project, unless a link of the project on the way of its path leads out. -/
theorem performAll_confined (rootDir : t.RootDir root base) (uses : List ToolUse) (u : ToolUse) :
    let run := ({ root } : FileTools).performAll t uses
    Confined base run.2.1 run.2.2 u :=
  ((Rooted.new rootDir).performAll uses).confined u

/-- A project with a link, `out`, to the directory that it is in. -/
def linkedTree : Tree := { entries := [(["p"], .dir), (["p", "out"], .link "..")] }

theorem linkedTree_get? (p : Place) : linkedTree.get? p =
    if p = [] ∨ p = ["p"] then some .dir
    else if p = ["p", "out"] then some (.link "..") else none := by
  by_cases atRoot : p = []
  · simp [Tree.get?, atRoot]
  · by_cases project : p = ["p"]
    · subst project
      decide
    · by_cases link : p = ["p", "out"]
      · subst link
        decide
      · simp [Tree.get?, linkedTree, atRoot, project, link, List.lookup_cons,
          beq_eq_false_iff_ne.mpr]

theorem linkedTree_leads (last : Bool) {names : List String} {q : Place}
    (leads : linkedTree.Leads last Tree.maxLinks ["p"] names q) :
    linkedTree.Leads last Tree.maxLinks [] ("" :: "p" :: names) q := by
  have dir : linkedTree.get? ([] ++ ["p"]) = some .dir := by decide
  exact .blank (by decide) (.inl rfl)
    (.down (by decide) ⟨by decide, by decide, by decide⟩ (by decide) dir (by simp) leads)

theorem linkedTree_rootDir : linkedTree.RootDir "/p" ["p"] where
  sound p e filled found := by
    rw [linkedTree_get?] at found
    split at found
    · next dir =>
      rcases dir with rfl | rfl
      · exact absurd rfl filled
      · decide
    · split at found
      · next link =>
        subst link
        decide
      · cases found
  located := by
    have split : segments "/p" = ["", "p"] := by decide
    have size : "/p".utf8ByteSize = 2 := by decide
    have walked := (linkedTree_leads true .here).walk_eq
    simp [Tree.locate, Tree.resolve, split, size, isAbsolute, Tree.maxPath, walked]
  dir := by decide

/-- The link leads out, and so does what follows it. -/
theorem linkedTree_out (last : Bool) {rest : List String} {q : Place}
    (goes : rest ≠ [] ∨ last = true)
    (leads : linkedTree.Leads last 39 [] rest q) :
    linkedTree.Leads last Tree.maxLinks ["p"] ("out" :: rest) q := by
  have found : linkedTree.get? (["p"] ++ ["out"]) = some (.link "..") := by decide
  have target : segments ".." = [".."] := by decide
  refine .follow (by decide) ⟨by decide, by decide, by decide⟩ (by decide) found goes ?_
  rw [target]
  exact .up (by decide) leads

theorem linkedTree_locate : linkedTree.locate "/p/out/x" = .ok ["x"] := by
  have split : segments "/p/out/x" = ["", "p", "out", "x"] := by decide
  have size : "/p/out/x".utf8ByteSize = 8 := by decide
  have absent : linkedTree.get? ([] ++ ["x"]) = none := by decide
  have walked := (linkedTree_leads true (linkedTree_out true (.inr rfl)
    (.fresh (by decide) ⟨by decide, by decide, by decide⟩ (by decide) absent))).walk_eq
  simpa [Tree.locate, Tree.resolve, split, size, isAbsolute, Tree.maxPath] using walked

theorem linkedTree_read : ({ root := "/p" } : FileTools).performAll linkedTree [.read "out/x"] =
    ([.ok ""], { root := "/p", licensed := [["out", "x"]] }, linkedTree) := by
  have resolved : resolve "out/x" = .ok ["out", "x"] := by decide
  have path : joinNames "/p" ["out", "x"] = "/p/out/x" := by decide
  have text : textOf linkedTree "/p/out/x" = .ok "" :=
    textOf_of_holds (.inr ⟨by decide, rfl⟩) linkedTree_locate
  simp [performAll, perform, read, resolved, pathOf, path, text]

theorem linkedTree_ensureDirs : linkedTree.ensureDirs "/p/out" = (.ok (), linkedTree) := by
  have split : segments "/p/out" = ["", "p", "out"] := by decide
  have size : "/p/out".utf8ByteSize = 6 := by decide
  have link : linkedTree.get? (["p"] ++ ["out"]) = some (.link "..") := by decide
  have made : linkedTree.makeDir "/p/out" = .error .exists := by
    have walked := (linkedTree_leads false
      (.stop (by decide) ⟨by decide, by decide, by decide⟩ (by decide) link rfl)).walk_eq
    have found : linkedTree.get? ["p", "out"] = some (.link "..") := link
    simp [Tree.makeDir, Tree.locateLink, Tree.resolve, split, size, isAbsolute, Tree.maxPath,
      walked, found, bind, Except.bind]
  have isDir : linkedTree.isDir "/p/out" = true := by
    have walked := (linkedTree_leads true (linkedTree_out true (.inr rfl) .here)).walk_eq
    simp [Tree.isDir, Tree.find?, Tree.locate, Tree.resolve, split, size, isAbsolute, Tree.maxPath,
      walked, Tree.get?]
  simp [Tree.ensureDirs, Tree.ensureDirs.go, made, isDir]

theorem linkedTree_write :
    (({ root := "/p", licensed := [["out", "x"]] } : FileTools).perform (.write "out/x" "hi")
      linkedTree).2.2 = linkedTree.put ["x"] (.file (Text.toBytes "hi") false) := by
  have resolved : resolve "out/x" = .ok ["out", "x"] := by decide
  have path : joinNames "/p" ["out", "x"] = "/p/out/x" := by decide
  have above : parent? "/p/out/x" = some "/p/out" := by decide
  have absent : linkedTree.get? ["x"] = none := by decide
  simp [perform, write, resolved, pathOf, path, above, Tree.writeTextIn, linkedTree_ensureDirs,
    Tree.writeTextIn.finish, Tree.writeText, Tree.writeBytes, linkedTree_locate, absent, bind,
    Except.bind]

/-- A file is made beside the project, through the link. -/
theorem performAll_confined_sample : linkedTree.RootDir "/p" ["p"] ∧
    Confined ["p"] { root := "/p", licensed := [["out", "x"]] } linkedTree (.write "out/x" "hi") ∧
    (({ root := "/p", licensed := [["out", "x"]] } : FileTools).perform (.write "out/x" "hi")
      linkedTree).2.2.get? ["x"] ≠ linkedTree.get? ["x"] ∧ ¬ ["p"] <+: ["x"] := by
  have confined := performAll_confined linkedTree_rootDir [.read "out/x"] (.write "out/x" "hi")
  simp only [linkedTree_read] at confined
  refine ⟨linkedTree_rootDir, confined, ?_, by decide⟩
  rw [linkedTree_write, Tree.get?_put _ _ _ (by simp)]
  decide

/-! ## Projects without links -/

theorem not_leadsOut (plain : t.PlainDir root base) (names : List String) :
    ¬ t.LeadsOut base names := by
  rintro ⟨front, name, rest, dir, target, out, -, -, inside, link, -, -⟩
  exact plain.unlinked _ target (inside.trans (List.prefix_append _ _)) link

/-- After any uses of new tools on a project without symbolic links, what the next use reads, makes
or changes lies in the project. -/
theorem performAll_inside (plain : t.PlainDir root base) (uses : List ToolUse) (u : ToolUse) :
    let run := ({ root } : FileTools).performAll t uses
    let next := run.2.1.perform u run.2.2
    (∀ path text, u.meant = .ok (.read path) → next.1 = .ok text →
        ∃ q, base <+: q ∧ HoldsText run.2.2 q text) ∧
      ∀ q, next.2.2.get? q ≠ run.2.2.get? q → base <+: q := by
  intro run next
  have tracks : Tracks root base (historyOf uses run.1) run.2.1 run.2.2 :=
    (Tracks.new plain).performAll uses
  have confined : Confined base run.2.1 run.2.2 u :=
    ((Rooted.new plain.rootDir).performAll uses).confined u
  refine ⟨fun path text meant succeeds => ?_, fun q changed => ?_⟩
  · obtain ⟨names, resolved, ⟨q, -, holds, inside | out⟩ | ⟨missing, rfl⟩⟩ :=
      confined.read path text meant succeeds
    · exact ⟨q, inside, holds⟩
    · exact absurd out (not_leadsOut tracks.plain names)
    · rw [pathOf, tracks.root_eq] at missing
      have absent := tracks.plain.absent_of_notFound (properNames_of_resolve resolved) missing
      exact ⟨base ++ names, List.prefix_append _ _, .inr ⟨absent, rfl⟩⟩
  · obtain ⟨path, content, names, first, -, -, -, -, inside | out⟩ := confined.changed q changed
    · exact inside
    · exact absurd out (not_leadsOut tracks.plain names)

end FileTools

end Uplift.Migration
