import Uplift.Proofs.Migration.FileText

/-!
# Reading comes before writing

What a run of the file tools does to the files of a project is its history: the reads that succeeded
and the writes that were let through. `Tracks` ties the history to the licences and to the project,
and holds after every run (`performAll_tracks`). From it, `performAll_guarded` says that a write
succeeds only on a file whose latest event is a read, and replaces the text that was read.
-/

namespace Uplift.Migration

open Uplift.Files

/-- The use that a use stands for: a call is told by its name and its arguments. -/
def ToolUse.meant : ToolUse → Except ToolFault ToolUse
  | .call name arguments => FileTools.useOf name arguments
  | u => .ok u

theorem ToolUse.meant_call (name : String) (arguments : Value) :
    (ToolUse.call name arguments).meant = FileTools.useOf name arguments := by
  rw [meant]

/-- What became of a file of the project, by the names that lead to it. -/
inductive FileEvent where
  /-- It was read, and this was its text. -/
  | read (names : List String) (text : String)
  /-- A write of it was let through, whether the writing then succeeded or not. -/
  | write (names : List String)
deriving DecidableEq

namespace FileEvent

/-- The names of the file. -/
def names : FileEvent → List String
  | read names _ => names
  | write names => names

/-- The event that a use with its result is. -/
def of? (u : ToolUse) (result : Except ProviderError String) : Option FileEvent :=
  match u.meant, result with
  | .ok (.read path), .ok text => (FileTools.resolve path).toOption.map (read · text)
  | .ok (.write _ _), .error (.toolCall _) => none
  | .ok (.write path _), _ => (FileTools.resolve path).toOption.map write
  | _, _ => none

/-- The latest event of a file. -/
def latest? (history : List FileEvent) (names : List String) : Option FileEvent :=
  history.reverse.find? (·.names = names)

theorem latest?_append (history : List FileEvent) (e : FileEvent) (names : List String) :
    latest? (history ++ [e]) names = if e.names = names then some e else latest? history names := by
  by_cases same : e.names = names <;> simp [latest?, same]

/-- An event of a history with one more is the new one or stood there before. -/
theorem split_append_singleton {history before after : List FileEvent} {e x : FileEvent}
    (split : history ++ [e] = before ++ x :: after) :
    (∃ after', history = before ++ x :: after') ∨ (history = before ∧ e = x) := by
  rcases List.eq_nil_or_concat after with rfl | ⟨after', last, rfl⟩
  · obtain ⟨same, ends⟩ := List.append_inj' split rfl
    exact .inr ⟨same, (List.cons.inj ends).1⟩
  · rw [List.concat_eq_append, ← List.cons_append, ← List.append_assoc] at split
    exact .inl ⟨after', (List.append_inj' split rfl).1⟩

theorem of?_toolCall (u : ToolUse) (fault : ToolFault) :
    of? u (.error (.toolCall fault)) = none := by
  unfold of?
  split <;> simp_all

end FileEvent

open FileEvent

/-- The history of a run. -/
def historyOf (uses : List ToolUse) (results : List (Except ProviderError String)) :
    List FileEvent :=
  (uses.zip results).filterMap fun (u, result) => of? u result

namespace FileTools

/-! ## One use -/

/-- The paths that may be written after one of them was. -/
def spend (f : FileTools) (names : List String) : FileTools :=
  { f with licensed := f.licensed.filter (· ≠ names) }

/-- The use is no write of a path that may be written. -/
def NoLicence (f : FileTools) (u : ToolUse) : Prop :=
  ∀ path content names, u.meant = .ok (.write path content) → resolve path = .ok names →
    names ∉ f.licensed

/-- What a use of the tools does. -/
inductive Performs (f : FileTools) (t : Tree) (u : ToolUse) :
    Except ProviderError String → FileTools → Tree → Prop
  | read {path names text} : u.meant = .ok (.read path) → resolve path = .ok names →
      textOf t (f.pathOf names) = .ok text →
      Performs f t u (.ok text) { f with licensed := names :: (f.spend names).licensed } t
  | write {path content names result t'} : u.meant = .ok (.write path content) →
      resolve path = .ok names → names ∈ f.licensed →
      t.writeTextIn (parent? (f.pathOf names)) (f.pathOf names) content = (.ok (), t') →
      Performs f t u (.ok result) (f.spend names) t'
  | writeFails {path content names failed e t'} : u.meant = .ok (.write path content) →
      resolve path = .ok names → names ∈ f.licensed →
      t.writeTextIn (parent? (f.pathOf names)) (f.pathOf names) content = (.error (failed, e), t') →
      Performs f t u (.error (.io failed e)) (f.spend names) t'
  | readFails {path failed e} : u.meant = .ok (.read path) →
      Performs f t u (.error (.io failed e)) f t
  | refused {fault} : f.NoLicence u → Performs f t u (.error (.toolCall fault)) f t

variable {f f' : FileTools} {t t' : Tree} {u : ToolUse} {result : Except ProviderError String}

theorem noLicence_of_not_write (other : ∀ path content, u.meant ≠ .ok (.write path content)) :
    f.NoLicence u :=
  fun path content _ meant => absurd meant (other path content)

theorem noLicence_of_write {path content : String} (meant : u.meant = .ok (.write path content))
    (unlicensed : ∀ names, resolve path = .ok names → names ∉ f.licensed) : f.NoLicence u := by
  intro path' content' names meant' resolved
  obtain ⟨rfl, rfl⟩ := ToolUse.write.inj (Except.ok.inj (meant.symm.trans meant'))
  exact unlicensed names resolved

theorem read_performs (path : String) (meant : u.meant = .ok (.read path)) :
    Performs f t u (f.read path t).1 (f.read path t).2 t := by
  have noLicence : f.NoLicence u := noLicence_of_not_write (by simp [meant])
  cases resolved : resolve path with
  | error fault => simpa [read, resolved] using Performs.refused noLicence
  | ok names =>
    cases text : textOf t (f.pathOf names) with
    | error e => simpa [read, resolved, text] using Performs.readFails meant
    | ok text' => simpa [read, resolved, text, spend] using Performs.read meant resolved text

theorem write_performs (path content : String) (meant : u.meant = .ok (.write path content)) :
    Performs f t u (f.write path content t).1 (f.write path content t).2.1
      (f.write path content t).2.2 := by
  cases resolved : resolve path with
  | error fault =>
    have noLicence : f.NoLicence u := noLicence_of_write meant (by simp [resolved])
    simpa [write, resolved] using Performs.refused noLicence
  | ok names =>
    by_cases licensed : names ∈ f.licensed
    · rcases written : t.writeTextIn (parent? (f.pathOf names)) (f.pathOf names) content with
        ⟨⟨failed, e⟩ | ⟨⟩, t'⟩
      · simpa [write, resolved, licensed, written, spend] using
          Performs.writeFails meant resolved licensed written
      · simpa [write, resolved, licensed, written, spend] using
          Performs.write meant resolved licensed written
    · have noLicence : f.NoLicence u :=
        noLicence_of_write meant (by simpa [resolved] using licensed)
      simpa [write, resolved, licensed] using Performs.refused noLicence

theorem perform_read (f : FileTools) (t : Tree) (path : String) :
    f.perform (.read path) t = ((f.read path t).1, (f.read path t).2, t) := by
  rw [perform]

theorem perform_write (f : FileTools) (t : Tree) (path content : String) :
    f.perform (.write path content) t = f.write path content t := by
  rw [perform]

/-- A call does what the use that it stands for does. -/
theorem perform_call {name : String} {arguments : Value}
    (meant : useOf name arguments = .ok u) (noCall : ∀ name arguments, u ≠ .call name arguments) :
    f.perform (.call name arguments) t = f.perform u t := by
  cases u with
  | read path => simp [perform, call, meant]
  | write path content => simp [perform, call, meant]
  | call other arguments' => exact absurd rfl (noCall other arguments')

theorem useOf_ne_call (name : String) (arguments : Value) (name' : String) (arguments' : Value) :
    useOf name arguments ≠ .ok (.call name' arguments') := by
  intro meant
  unfold useOf at meant
  split at meant
  · obtain ⟨_, _, same⟩ := bind_eq_ok_iff.mp meant
    cases same
  · split at meant
    · obtain ⟨_, _, rest⟩ := bind_eq_ok_iff.mp meant
      obtain ⟨_, _, same⟩ := bind_eq_ok_iff.mp rest
      cases same
    · cases meant

/-- What a use does is one of these. -/
theorem perform_performs (f : FileTools) (t : Tree) (u : ToolUse) :
    Performs f t u (f.perform u t).1 (f.perform u t).2.1 (f.perform u t).2.2 := by
  cases u with
  | read path =>
    simpa only [perform_read] using read_performs path rfl
  | write path content =>
    rw [perform_write]
    exact write_performs path content rfl
  | call name arguments =>
    cases meant : useOf name arguments with
    | error fault =>
      have noLicence : f.NoLicence (.call name arguments) :=
        noLicence_of_not_write (by simp [ToolUse.meant_call, meant])
      simpa [perform, call, meant] using Performs.refused noLicence
    | ok u =>
      -- A call never stands for another call, so one step of the recursion is enough.
      have noCall : ∀ name' arguments', u ≠ .call name' arguments' :=
        fun name' arguments' same => useOf_ne_call name arguments name' arguments' (same ▸ meant)
      rw [perform_call meant noCall]
      cases u with
      | read path =>
        simpa only [perform_read] using read_performs path ((ToolUse.meant_call ..).trans meant)
      | write path content =>
        rw [perform_write]
        exact write_performs path content ((ToolUse.meant_call ..).trans meant)
      | call other arguments' => exact absurd rfl (noCall other arguments')

/-- A write without a licence is refused, and changes nothing. -/
theorem Performs.of_noLicence (performs : Performs f t u result f' t') {path content : String}
    (meant : u.meant = .ok (.write path content)) (noLicence : f.NoLicence u) :
    ∃ fault, result = .error (.toolCall fault) ∧ f' = f ∧ t' = t := by
  cases performs with
  | read meant' => cases meant.symm.trans meant'
  | write meant' resolved licensed => exact absurd licensed (noLicence _ _ _ meant' resolved)
  | writeFails meant' resolved licensed => exact absurd licensed (noLicence _ _ _ meant' resolved)
  | readFails meant' => cases meant.symm.trans meant'
  | @refused fault => exact ⟨fault, rfl, rfl, rfl⟩

/-- A write that succeeds has a licence. -/
theorem Performs.of_success (performs : Performs f t u result f' t') {path content : String}
    {names : List String} (meant : u.meant = .ok (.write path content))
    (resolved : resolve path = .ok names) (succeeds : result.isOk) :
    names ∈ f.licensed ∧
      (t.writeTextIn (parent? (f.pathOf names)) (f.pathOf names) content).1 = .ok () := by
  cases performs with
  | read meant' => cases meant.symm.trans meant'
  | write meant' resolved' licensed written =>
    obtain ⟨rfl, rfl⟩ := ToolUse.write.inj (Except.ok.inj (meant.symm.trans meant'))
    obtain rfl := Except.ok.inj (resolved.symm.trans resolved')
    exact ⟨licensed, congrArg Prod.fst written⟩
  | writeFails | readFails | refused => cases succeeds

/-! ## Runs -/

/-- The history of a run says which paths may be written and what their files held. -/
structure Tracks (root : String) (base : Place) (history : List FileEvent) (f : FileTools)
    (t : Tree) : Prop where
  root_eq : f.root = root
  plain : t.PlainDir root base
  proper : ∀ e ∈ history, ProperNames e.names
  licensed_iff : ∀ names, names ∈ f.licensed ↔
    ∃ text, latest? history names = some (.read names text)
  keeps : ∀ names text, latest? history names = some (.read names text) →
    Keeps t (base ++ names) text
  /-- Before a write that is let through, there is a read that no other such write follows. -/
  readFirst : ∀ before names after, history = before ++ .write names :: after →
    ∃ text, latest? before names = some (.read names text)

variable {root : String} {base : Place} {history : List FileEvent} {names : List String}
  {text : String}

/-- New tools have no history. -/
theorem Tracks.new (plain : t.PlainDir root base) : Tracks root base [] { root } t where
  root_eq := rfl
  plain := plain
  proper event member := by cases member
  licensed_iff names := by simp [latest?]
  keeps names text latest := by simp [latest?] at latest
  readFirst before names after split := by simp at split

/-- A file that may be written has been read. -/
theorem Tracks.latest (tracks : Tracks root base history f t) (licensed : names ∈ f.licensed) :
    ∃ text, latest? history names = some (.read names text) :=
  (tracks.licensed_iff names).mp licensed

theorem Tracks.proper_of_licensed (tracks : Tracks root base history f t)
    (licensed : names ∈ f.licensed) : ProperNames names := by
  obtain ⟨text, latest⟩ := tracks.latest licensed
  exact tracks.proper _ (List.mem_reverse.mp (List.mem_of_find?_eq_some latest))

theorem Tracks.read (tracks : Tracks root base history f t) (proper : ProperNames names)
    (holds : HoldsText t (base ++ names) text) :
    Tracks root base (history ++ [.read names text])
      { f with licensed := names :: (f.spend names).licensed } t where
  root_eq := tracks.root_eq
  plain := tracks.plain
  proper e member := by
    rcases List.mem_append.mp member with before | new
    · exact tracks.proper e before
    · obtain rfl := List.mem_singleton.mp new
      exact proper
  licensed_iff other := by
    rw [latest?_append]
    by_cases same : names = other
    · subst same
      simp [FileEvent.names]
    · simpa [FileEvent.names, same, spend, Ne.symm same] using tracks.licensed_iff other
  keeps other text' latest := by
    rw [latest?_append] at latest
    by_cases same : names = other
    · subst same
      rw [if_pos (by rfl)] at latest
      obtain ⟨-, rfl⟩ := FileEvent.read.inj (Option.some.inj latest)
      exact .inl holds
    · rw [if_neg (by exact same)] at latest
      exact tracks.keeps other text' latest
  readFirst before other after split := by
    rcases split_append_singleton split with ⟨after, earlier⟩ | ⟨-, last⟩
    · exact tracks.readFirst before other after earlier
    · cases last

theorem Tracks.write (tracks : Tracks root base history f t) (licensed : names ∈ f.licensed)
    (plain : t'.PlainDir root base)
    (others : ∀ p text, p ≠ base ++ names → Keeps t p text → Keeps t' p text) :
    Tracks root base (history ++ [.write names]) (f.spend names) t' where
  root_eq := tracks.root_eq
  plain := plain
  proper e member := by
    rcases List.mem_append.mp member with before | new
    · exact tracks.proper e before
    · obtain rfl := List.mem_singleton.mp new
      exact tracks.proper_of_licensed licensed
  licensed_iff other := by
    rw [latest?_append]
    by_cases same : names = other
    · subst same
      simp [FileEvent.names, spend]
    · simpa [FileEvent.names, same, spend, Ne.symm same] using tracks.licensed_iff other
  keeps other text' latest := by
    rw [latest?_append] at latest
    by_cases same : names = other
    -- The latest event of the file that was written is no read.
    · rw [if_pos (by exact same)] at latest
      cases latest
    -- Other names spell another place, and what it holds is kept.
    · rw [if_neg (by exact same)] at latest
      exact others _ _ (by simpa using Ne.symm same) (tracks.keeps other text' latest)
  readFirst before other after split := by
    rcases split_append_singleton split with ⟨after, earlier⟩ | ⟨rfl, last⟩
    · exact tracks.readFirst before other after earlier
    · -- The write itself: it had a licence, so the latest event of its file is a read.
      obtain rfl := FileEvent.write.inj last
      exact tracks.latest licensed

/-- A write that is let through is an event, whatever becomes of the writing. -/
theorem Tracks.attempt (tracks : Tracks root base history f t) {path content : String}
    (resolved : resolve path = .ok names) (licensed : names ∈ f.licensed)
    (attempted :
      (t.writeTextIn (parent? (f.pathOf names)) (f.pathOf names) content).2 = t') :
    Tracks root base (history ++ [.write names]) (f.spend names) t' := by
  rw [pathOf, tracks.root_eq] at attempted
  subst attempted
  obtain ⟨plain, others⟩ := write_keeps tracks.plain (properNames_of_resolve resolved)
    (parent? (joinNames root names)) content
  exact tracks.write licensed plain others

/-- One use adds its event, if it is one. -/
theorem Tracks.performs (tracks : Tracks root base history f t)
    (performs : Performs f t u result f' t') :
    Tracks root base (history ++ (of? u result).toList) f' t' := by
  cases performs with
  | @read path names text meant resolved read =>
    have event : of? u (.ok text) = some (.read names text) := by
      simp [of?, meant, resolved, Except.toOption]
    have proper := properNames_of_resolve resolved
    rw [event]
    refine tracks.read proper (holdsText_of_textOf tracks.plain proper ?_)
    rwa [pathOf, tracks.root_eq] at read
  | @write path content names result _ meant resolved licensed written =>
    have event : of? u (.ok result) = some (.write names) := by
      simp [of?, meant, resolved, Except.toOption]
    rw [event]
    exact tracks.attempt resolved licensed (congrArg Prod.snd written)
  | @writeFails path content names failed e _ meant resolved licensed written =>
    have event : of? u (.error (.io failed e)) = some (.write names) := by
      simp [of?, meant, resolved, Except.toOption]
    rw [event]
    exact tracks.attempt resolved licensed (congrArg Prod.snd written)
  | readFails meant => simpa [of?, meant] using tracks
  | refused => simpa [of?_toolCall] using tracks

/-- A run adds its history. -/
theorem Tracks.performAll (tracks : Tracks root base history f t) (uses : List ToolUse) :
    let run := f.performAll t uses
    Tracks root base (history ++ historyOf uses run.1) run.2.1 run.2.2 := by
  induction uses generalizing history f t with
  | nil => simpa [historyOf, FileTools.performAll] using tracks
  | cons u uses ih =>
    -- The invariant after the first use is the one to start the rest of the run from.
    have further := ih (tracks.performs (perform_performs f t u))
    have split : historyOf (u :: uses) (f.performAll t (u :: uses)).1 =
        (of? u (f.perform u t).1).toList ++ historyOf uses
          ((f.perform u t).2.1.performAll (f.perform u t).2.2 uses).1 := by
      simp only [historyOf, FileTools.performAll, List.zip_cons_cons]
      cases event : of? u (f.perform u t).1 <;> simp [event]
    intro run
    rw [split, ← List.append_assoc]
    exact further

/-! ## The guard -/

/-- What holds of the next use of the tools, after a history. -/
structure Guarded (history : List FileEvent) (f : FileTools) (t : Tree) (u : ToolUse) : Prop where
  /-- The files that may be written are those whose latest event is a read. -/
  licensed_iff : ∀ names, names ∈ f.licensed ↔
    ∃ text, latest? history names = some (.read names text)
  /-- A read lets one write through at most. -/
  readFirst : ∀ before names after, history = before ++ .write names :: after →
    ∃ text, latest? before names = some (.read names text)
  /-- Any other write is refused, and changes nothing. -/
  refused : ∀ path content, u.meant = .ok (.write path content) →
    (∀ names, resolve path = .ok names → names ∉ f.licensed) →
    ∃ fault, f.perform u t = (.error (.toolCall fault), f, t)
  /-- A write that succeeds replaces the text that the latest read of the file gave. -/
  seen : ∀ path content names, u.meant = .ok (.write path content) → resolve path = .ok names →
    (f.perform u t).1.isOk →
    ∃ text, latest? history names = some (.read names text) ∧ textOf t (f.pathOf names) = .ok text

/-- After any uses of new tools on a project without symbolic links, a write goes through only if
the latest event of its file is a read, and if it succeeds, it replaces the text that was read. -/
theorem performAll_guarded (plain : t.PlainDir root base) (uses : List ToolUse) (u : ToolUse) :
    let run := ({ root } : FileTools).performAll t uses
    Guarded (historyOf uses run.1) run.2.1 run.2.2 u := by
  intro run
  have tracks : Tracks root base (historyOf uses run.1) run.2.1 run.2.2 :=
    (Tracks.new plain).performAll uses
  have step := perform_performs run.2.1 run.2.2 u
  refine ⟨tracks.licensed_iff, tracks.readFirst, fun path content meant unlicensed => ?_,
    fun path content names meant resolved succeeds => ?_⟩
  · obtain ⟨fault, refused, sameTools, sameTree⟩ :=
      step.of_noLicence meant (noLicence_of_write meant unlicensed)
    exact ⟨fault, Prod.ext refused (Prod.ext sameTools sameTree)⟩
  · obtain ⟨licensed, written⟩ := step.of_success meant resolved succeeds
    obtain ⟨text, latest⟩ := tracks.latest licensed
    refine ⟨text, latest, ?_⟩
    rw [pathOf, tracks.root_eq] at written ⊢
    exact textOf_of_written tracks.plain (properNames_of_resolve resolved) written
      (tracks.keeps names text latest)

/-- A project with one file, `a`, with the text `hi`. -/
def sampleTree : Tree := { entries := [(["p"], .dir), (["p", "a"], .file [104, 105] false)] }

theorem sampleTree_get? (p : Place) : sampleTree.get? p =
    if p = [] ∨ p = ["p"] then some .dir
    else if p = ["p", "a"] then some (.file [104, 105] false) else none := by
  by_cases atRoot : p = []
  · simp [Tree.get?, atRoot]
  · by_cases project : p = ["p"]
    · subst project
      decide
    · by_cases file : p = ["p", "a"]
      · subst file
        decide
      · simp [Tree.get?, sampleTree, atRoot, project, file, List.lookup_cons,
          beq_eq_false_iff_ne.mpr]

theorem sampleTree_plain : sampleTree.PlainDir "/p" ["p"] where
  sound p e filled found := by
    rw [sampleTree_get?] at found
    split at found
    · next dir =>
      rcases dir with rfl | rfl
      · exact absurd rfl filled
      · decide
    · split at found
      · next file =>
        subst file
        decide
      · cases found
  located := by
    have split : segments "/p" = ["", "p"] := by decide
    have size : "/p".utf8ByteSize = 2 := by decide
    have nameSize : "p".utf8ByteSize = 1 := by decide
    simp [Tree.locate, Tree.resolve, split, size, nameSize, isAbsolute, Tree.walk, sampleTree_get?,
      Tree.maxPath, Tree.maxName]
  dir := by decide
  unlinked p target _ := by
    rw [sampleTree_get?]
    split
    · simp
    · split <;> simp

theorem sampleTree_textOf : textOf sampleTree "/p/a" = .ok "hi" := by
  have located : sampleTree.locate "/p/a" = .ok ["p", "a"] := by
    have split : segments "/p/a" = ["", "p", "a"] := by decide
    have size : "/p/a".utf8ByteSize = 4 := by decide
    have size₁ : "p".utf8ByteSize = 1 := by decide
    have size₂ : "a".utf8ByteSize = 1 := by decide
    simp [Tree.locate, Tree.resolve, split, size, size₁, size₂, isAbsolute, Tree.walk,
      sampleTree_get?, Tree.maxPath, Tree.maxName]
  exact textOf_of_holds (.inl ⟨[104, 105], false, by decide, by decide⟩) located

theorem sampleTree_read : ({ root := "/p" } : FileTools).performAll sampleTree [.read "a"] =
    ([.ok "hi"], { root := "/p", licensed := [["a"]] }, sampleTree) := by
  have resolved : resolve "a" = .ok ["a"] := by decide
  have path : joinNames "/p" ["a"] = "/p/a" := by decide
  simp [performAll, perform, read, resolved, pathOf, path, sampleTree_textOf]

theorem performAll_guarded_sample : sampleTree.PlainDir "/p" ["p"] ∧
    Guarded [.read ["a"] "hi"] { root := "/p", licensed := [["a"]] } sampleTree
      (.write "./a" "yes") := by
  have guarded := performAll_guarded sampleTree_plain [.read "a"] (.write "./a" "yes")
  have history : historyOf [.read "a"] [.ok "hi"] = [.read ["a"] "hi"] := by decide
  simp only [sampleTree_read, history] at guarded
  exact ⟨sampleTree_plain, guarded⟩

end FileTools

end Uplift.Migration
