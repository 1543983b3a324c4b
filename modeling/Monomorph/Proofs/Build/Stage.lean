import Mathlib.Data.List.Nodup
import Monomorph.Proofs.Build.Notices
import Monomorph.Proofs.FileSystem.Directories

/-!
Staging artifacts. What has become of each artifact is told by its status: it has not been touched, it
waits beside its target, it has been moved there, or it has been taken back. Every operation of a commit
changes the status of one artifact and nothing else, but for the directories that are made on the way.
-/

namespace Monomorph.Build

open FileSystem

/-- The place that an artifact goes to. -/
def targetPlace (here : Place) (a : Artifact) : Place := a.path.placeFrom here

/-- The temporary path of an artifact. -/
def temporaryPath (a : Artifact) : Path := (Staged.beside a.path).temporary

/-- The place at which an artifact is staged. -/
def temporaryPlace (here : Place) (a : Artifact) : Place := (temporaryPath a).placeFrom here

/-- Artifacts that go to one directory, each under a name of its own that is no temporary one. -/
structure Siblings (dir : Path) (artifacts : List Artifact) : Prop where
  nodup : (artifacts.map (·.path)).Nodup
  path : ∀ a ∈ artifacts, a.path = dir.child a.path.name
  proper : ∀ a ∈ artifacts, a.path.name ≠ ".."
  final : ∀ a ∈ artifacts, ¬ temporaryEnding.toList <:+ a.path.name.toList

/-- What has become of an artifact. -/
inductive Status where
  | untouched | staged | published | removed
  deriving DecidableEq, Repr

/-- What stands at the two places of an artifact, compared with what stood there before. -/
def Status.Holds (dir : Path) (here : Place) (before after : FileSystem) (a : Artifact) : Status → Prop
  | untouched => Stays (inside dir here) before after (targetPlace here a) ∧
      Stays (inside dir here) before after (temporaryPlace here a)
  | staged => Stays (inside dir here) before after (targetPlace here a) ∧
      after.node? (temporaryPlace here a) = some (.file (Text.Utf8.encode a.content))
  | published => after.node? (targetPlace here a) = some (.file (Text.Utf8.encode a.content)) ∧
      after.node? (temporaryPlace here a) = none
  | removed => Stays (inside dir here) before after (targetPlace here a) ∧
      after.node? (temporaryPlace here a) = none

/-- Every artifact has its status, and elsewhere only directories on the way have been made. -/
structure Leaves (dir : Path) (here : Place) (artifacts : List Artifact) (before : FileSystem)
    (status : Artifact → Status) (after : FileSystem) : Prop where
  each : ∀ a ∈ artifacts, (status a).Holds dir here before after a
  others : ∀ q, (∀ a ∈ artifacts, q ≠ targetPlace here a ∧ q ≠ temporaryPlace here a) →
    Stays (inside dir here) before after q

variable {dir : Path} {here : Place} {artifacts rest : List Artifact} {before fs fs' : FileSystem}
  {status : Artifact → Status} {a b : Artifact}

/-! ### Places of artifacts -/

theorem append_temporaryEnding_ne (name : String) : name ++ temporaryEnding ≠ ".." := by
  intro heq
  have hlong := congrArg (fun s => s.toList.length) heq
  simp [temporaryEnding] at hlong

namespace Siblings

variable (h : Siblings dir artifacts)

include h

theorem parent (ha : a ∈ artifacts) : a.path.parent = dir := by
  rw [h.path a ha, Path.parent_child]

theorem temporaryPath_eq (ha : a ∈ artifacts) :
    temporaryPath a = dir.child (a.path.name ++ temporaryEnding) := by
  rw [← h.parent ha]
  rfl

theorem targetPlace_eq (ha : a ∈ artifacts) :
    targetPlace here a = dir.placeFrom here ++ [a.path.name] := by
  rw [← Path.placeFrom_child (h.proper a ha), ← h.path a ha]
  rfl

theorem temporaryPlace_eq (ha : a ∈ artifacts) :
    temporaryPlace here a = dir.placeFrom here ++ [a.path.name ++ temporaryEnding] := by
  rw [temporaryPlace, h.temporaryPath_eq ha, Path.placeFrom_child (append_temporaryEnding_ne _)]

theorem targetPlace_ne_nil (ha : a ∈ artifacts) : targetPlace here a ≠ [] := by
  rw [h.targetPlace_eq ha]
  exact List.append_ne_nil_of_right_ne_nil _ (List.cons_ne_nil _ _)

theorem temporaryPlace_ne_nil (ha : a ∈ artifacts) : temporaryPlace here a ≠ [] := by
  rw [h.temporaryPlace_eq ha]
  exact List.append_ne_nil_of_right_ne_nil _ (List.cons_ne_nil _ _)

theorem eq_of_name (ha : a ∈ artifacts) (hb : b ∈ artifacts) (hname : a.path.name = b.path.name) :
    a = b := by
  refine List.inj_on_of_nodup_map h.nodup ha hb ?_
  rw [h.path a ha, h.path b hb, hname]

theorem eq_of_targetPlace (ha : a ∈ artifacts) (hb : b ∈ artifacts)
    (hplace : targetPlace here a = targetPlace here b) : a = b := by
  rw [h.targetPlace_eq ha, h.targetPlace_eq hb] at hplace
  exact h.eq_of_name ha hb (by simpa using hplace)

theorem eq_of_temporaryPlace (ha : a ∈ artifacts) (hb : b ∈ artifacts)
    (hplace : temporaryPlace here a = temporaryPlace here b) : a = b := by
  rw [h.temporaryPlace_eq ha, h.temporaryPlace_eq hb] at hplace
  exact h.eq_of_name ha hb (by simpa using hplace)

theorem targetPlace_ne_temporaryPlace (ha : a ∈ artifacts) (hb : b ∈ artifacts) :
    targetPlace here a ≠ temporaryPlace here b := by
  rw [h.targetPlace_eq ha, h.temporaryPlace_eq hb]
  intro hplace
  have hname : a.path.name = b.path.name ++ temporaryEnding := by simpa using hplace
  refine h.final a ha ?_
  rw [hname, String.toList_append]
  exact List.suffix_append _ _

/-- Where the temporary file of an artifact has a path, the artifact has one. -/
theorem isFit (ha : a ∈ artifacts) (hfit : (temporaryPath a).IsFit) : a.path.IsFit := by
  rw [h.temporaryPath_eq ha] at hfit
  rw [h.path a ha]
  exact hfit.of_child_append (h.proper a ha) (append_temporaryEnding_ne _)

theorem isNameable_temporaryPath (ha : a ∈ artifacts) :
    (temporaryPath a).isNameable = a.path.isNameable := by
  have hending : temporaryEnding.toList.contains (Char.ofNat 0) = false := by decide
  rw [h.temporaryPath_eq ha, h.path a ha, Path.isNameable_child, Path.isNameable_child, Path.name_child,
    String.toList_append, List.contains_append, hending, Bool.or_false]

end Siblings

/-! ### Changing a status -/

/-- A status depends on the two places of the artifact only. -/
theorem Status.Holds.congr {s : Status} (h : s.Holds dir here before fs a)
    (htarget : fs'.node? (targetPlace here a) = fs.node? (targetPlace here a))
    (htemporary : fs'.node? (temporaryPlace here a) = fs.node? (temporaryPlace here a)) :
    s.Holds dir here before fs' a := by
  cases s <;> simpa only [Status.Holds, Stays, htarget, htemporary] using h

theorem leaves_untouched (dir : Path) (here : Place) (artifacts : List Artifact) (fs : FileSystem) :
    Leaves dir here artifacts fs (fun _ => .untouched) fs :=
  ⟨fun _ _ => ⟨.inl rfl, .inl rfl⟩, fun _ _ => .inl rfl⟩

/-- A change at the two places of one artifact changes its status only. -/
theorem Leaves.update (hs : Siblings dir artifacts) (h : Leaves dir here artifacts before status fs)
    (ha : a ∈ artifacts) {s : Status}
    (hframe : ∀ q, q ≠ targetPlace here a → q ≠ temporaryPlace here a → fs'.node? q = fs.node? q)
    (hholds : s.Holds dir here before fs' a) :
    Leaves dir here artifacts before (Function.update status a s) fs' where
  each b hb := by
    by_cases hab : b = a
    · subst hab
      rwa [Function.update_self]
    · rw [Function.update_of_ne hab]
      refine (h.each b hb).congr ?_ ?_
      · exact hframe _ (fun heq => hab (hs.eq_of_targetPlace hb ha heq))
          (hs.targetPlace_ne_temporaryPlace hb ha)
      · exact hframe _ (hs.targetPlace_ne_temporaryPlace ha hb).symm
          (fun heq => hab (hs.eq_of_temporaryPlace hb ha heq))
  others q hq := by
    have hsame := hframe q (hq a ha).1 (hq a ha).2
    have hstays := h.others q hq
    rwa [Stays, hsame]

/-! ### Staging -/

/-- Some artifacts are staged, and the way to their temporary files is open. -/
structure Underway (dir : Path) (here : Place) (artifacts : List Artifact) (before : FileSystem)
    (status : Artifact → Status) (after : FileSystem) : Prop extends
    Leaves dir here artifacts before status after where
  early : ∀ a ∈ artifacts, status a = .untouched ∨ status a = .staged
  ready : ∀ a ∈ artifacts, status a = .staged → (temporaryPath a).IsFit ∧ after.Opens here dir

theorem underway_untouched (dir : Path) (here : Place) (artifacts : List Artifact) (fs : FileSystem) :
    Underway dir here artifacts fs (fun _ => .untouched) fs :=
  ⟨leaves_untouched dir here artifacts fs, fun _ _ => .inl rfl, fun _ _ h => by cases h⟩

theorem Underway.each_ready (h : Underway dir here artifacts before status fs) : ∀ a ∈ artifacts,
    status a = .untouched ∨ status a = .staged ∧ (temporaryPath a).IsFit ∧ fs.Opens here dir :=
  fun a ha => (h.early a ha).imp_right fun hstaged => ⟨hstaged, h.ready a ha hstaged⟩

theorem Underway.grow (h : Underway dir here artifacts before status fs)
    (hgrows : Grows (inside dir here) fs fs') : Underway dir here artifacts before status fs' where
  each a ha := by
    have hholds := h.each a ha
    rcases h.early a ha with hstatus | hstatus
    · rw [hstatus] at hholds ⊢
      exact ⟨hholds.1.trans (hgrows _), hholds.2.trans (hgrows _)⟩
    · rw [hstatus] at hholds ⊢
      exact ⟨hholds.1.trans (hgrows _), hgrows.node?_eq hholds.2⟩
  others q hq := (h.others q hq).trans (hgrows q)
  early := h.early
  ready a ha hstaged := by
    obtain ⟨hfit, hopens⟩ := h.ready a ha hstaged
    exact ⟨hfit, fun q hq => hgrows.node?_eq (hopens q hq)⟩

/-- Writing the temporary file of an artifact stages it. -/
theorem Underway.stage (hs : Siblings dir artifacts) (h : Underway dir here artifacts before status fs)
    (ha : a ∈ artifacts) (huntouched : status a = .untouched) (hopens : fs.Opens here dir)
    (hwrite : fs.write here (temporaryPath a) (Text.Utf8.encode a.content) = .ok fs') :
    Underway dir here artifacts before (Function.update status a .staged) fs' := by
  obtain ⟨hfit, -, hfile, hput⟩ := write_eq_ok_iff.1 hwrite
  have hplace : temporaryPlace here a ≠ [] := hs.temporaryPlace_ne_nil ha
  have hnode : ∀ q, fs'.node? q = if q = temporaryPlace here a
      then some (.file (Text.Utf8.encode a.content)) else fs.node? q := fun q => by
    rw [hput]
    exact node?_put hplace q
  have hstill : fs'.Opens here dir := hput ▸ hopens.of_put hfile
  refine ⟨h.toLeaves.update hs ha (fun q _ hq => ?_) ⟨?_, ?_⟩, fun b hb => ?_, fun b hb hstaged => ?_⟩
  · rw [hnode, if_neg hq]
  · have hholds := h.each a ha
    rw [huntouched] at hholds
    rw [Stays, hnode, if_neg (hs.targetPlace_ne_temporaryPlace ha ha)]
    exact hholds.1
  · rw [hnode, if_pos rfl]
  · by_cases hab : b = a
    · subst hab
      exact .inr (Function.update_self ..)
    · rw [Function.update_of_ne hab]
      exact h.early b hb
  · refine ⟨?_, hstill⟩
    by_cases hab : b = a
    · rwa [hab]
    · rw [Function.update_of_ne hab] at hstaged
      exact (h.ready b hb hstaged).1

/-- The temporary files of those artifacts that are staged. -/
def stagedOf (status : Artifact → Status) (rest : List Artifact) : List Staged :=
  (rest.filter (status · = .staged)).map fun a => .beside a.path

theorem stagedOf_cons_of_staged (h : status a = .staged) (rest : List Artifact) :
    stagedOf status (a :: rest) = .beside a.path :: stagedOf status rest := by
  rw [stagedOf, List.filter_cons_of_pos (by simpa using h)]
  rfl

theorem stagedOf_cons_of_untouched (h : status a = .untouched) (rest : List Artifact) :
    stagedOf status (a :: rest) = stagedOf status rest := by
  rw [stagedOf, List.filter_cons_of_neg (by simp [h])]
  rfl

theorem stagedOf_of_untouched (h : ∀ a ∈ rest, status a = .untouched) : stagedOf status rest = [] := by
  induction rest with
  | nil => rfl
  | cons a rest ih =>
    obtain ⟨ha, hrest⟩ := List.forall_mem_cons.1 h
    rw [stagedOf_cons_of_untouched ha, ih hrest]

/-- What exists is not overwritten: there was something at the target, or it is on the way. -/
def Skips (overwrite : Bool) (dir : Path) (here : Place) (before : FileSystem) (a : Artifact) : Prop :=
  overwrite = false ∧ (before.node? (targetPlace here a) ≠ none ∨ targetPlace here a ∈ inside dir here)

/-- The temporary file of an artifact cannot be written nor removed. -/
def Blocked (here : Place) (fs : FileSystem) (a : Artifact) : Prop :=
  fs.node? (temporaryPlace here a) = some .directory ∨ ¬ (temporaryPath a).IsFit

/-- What staging answers. It has gone through all artifacts, or it has stopped at one, before its
temporary file was to be written or in writing it. -/
inductive StagingEnd (overwrite : Bool) (dir : Path) (here : Place) (before after : FileSystem)
    (status : Artifact → Status) (rest : List Artifact) : List Staged × Option StagingFault → Prop
  | done (h : ∀ a ∈ rest, status a = .staged ∨
      status a = .untouched ∧ Skips overwrite dir here before a) :
      StagingEnd overwrite dir here before after status rest (stagedOf status rest, none)
  | stopped {a : Artifact} {fault : FileFault} (ha : a ∈ rest)
      (hname : fault = .nameless → a.path.isNameable = false) :
      StagingEnd overwrite dir here before after status rest
        (stagedOf status rest, some (a.path, fault))
  | blocked {a : Artifact} {fault : FileFault} (ha : a ∈ rest)
      (hname : fault = .nameless → a.path.isNameable = false) (hstatus : status a = .untouched)
      (h : Blocked here after a) :
      StagingEnd overwrite dir here before after status rest
        (stagedOf status rest ++ [.beside a.path], some (a.path, fault))

namespace StagingEnd

variable {overwrite : Bool} {answer : List Staged × Option StagingFault}

theorem cons_skipped (h : StagingEnd overwrite dir here before fs status rest answer)
    (hstatus : status a = .untouched) (hskips : Skips overwrite dir here before a) :
    StagingEnd overwrite dir here before fs status (a :: rest) answer := by
  cases h with
  | done h =>
    rw [← stagedOf_cons_of_untouched hstatus]
    exact .done (List.forall_mem_cons.2 ⟨.inr ⟨hstatus, hskips⟩, h⟩)
  | stopped hb hname =>
    rw [← stagedOf_cons_of_untouched hstatus]
    exact .stopped (List.mem_cons_of_mem _ hb) hname
  | blocked hb hname hstatus' h =>
    rw [← stagedOf_cons_of_untouched hstatus]
    exact .blocked (List.mem_cons_of_mem _ hb) hname hstatus' h

theorem cons_staged (h : StagingEnd overwrite dir here before fs status rest answer)
    (hstatus : status a = .staged) :
    StagingEnd overwrite dir here before fs status (a :: rest)
      (.beside a.path :: answer.1, answer.2) := by
  cases h with
  | done h =>
    rw [← stagedOf_cons_of_staged hstatus]
    exact .done (List.forall_mem_cons.2 ⟨.inl hstatus, h⟩)
  | stopped hb hname =>
    rw [← stagedOf_cons_of_staged hstatus]
    exact .stopped (List.mem_cons_of_mem _ hb) hname
  | blocked hb hname hstatus' h =>
    rw [← List.cons_append, ← stagedOf_cons_of_staged hstatus]
    exact .blocked (List.mem_cons_of_mem _ hb) hname hstatus' h

end StagingEnd

theorem skips_of_kind? {kind : FileKind} (hstays : Stays (inside dir here) before fs (targetPlace here a))
    (hkind : fs.kind? here a.path = .ok (some kind)) :
    before.node? (targetPlace here a) ≠ none ∨ targetPlace here a ∈ inside dir here := by
  obtain ⟨-, -, hsome⟩ := exists_of_kind? hkind
  rcases hstays with hsame | ⟨hmem, -⟩
  · refine .inl fun hnone => ?_
    rw [← hsame] at hnone
    rw [show fs.node? (a.path.placeFrom here) = none from hnone] at hsome
    cases hsome
  · exact .inr hmem

/-- On an open way only a directory or a name that is too long keeps a temporary file from being written. -/
theorem blocked_of_write (hs : Siblings dir artifacts) (ha : a ∈ artifacts) (hopens : fs.Opens here dir)
    {fault : FileFault}
    (hwrite : fs.write here (temporaryPath a) (Text.Utf8.encode a.content) = .error fault) :
    Blocked here fs a ∧ (fault = .nameless → a.path.isNameable = false) := by
  rcases write_eq_error hwrite with hplace | ⟨rfl, hdir⟩
  · refine ⟨.inr fun hfit => ?_, ?_⟩
    · have hreaches := hopens.reaches_child (a.path.name ++ temporaryEnding)
      rw [← hs.temporaryPath_eq ha] at hreaches
      rw [place?_eq_ok_iff.2 ⟨hfit, hreaches, rfl⟩] at hplace
      cases hplace
    · rintro rfl
      rw [← hs.isNameable_temporaryPath ha]
      exact Bool.eq_false_iff.2 fun hname => nameable_of_place? hplace hname rfl
  · exact ⟨.inl hdir, fun h => by cases h⟩

/-- How staging runs on the files of a workspace. -/
theorem run_stage_cons (overwrite : Bool) (a : Artifact) (rest : List Artifact) (w : Workspace) :
    w.run (stage overwrite (a :: rest)) =
      match w.files.kind? w.here a.path with
      | .error fault => (([], some (a.path, fault)), w)
      | .ok kind =>
        if kind.isSome && !overwrite then
          ({ w with notices := w.notices ++ [.skipped a.path] } : Workspace).run (stage overwrite rest)
        else
          match w.files.makeDirectories w.here a.path.parent with
          | (.error fault, fs) => (([], some (a.path, fault)), { w with files := fs })
          | (.ok (), fs) =>
            match fs.write w.here (temporaryPath a) (Text.Utf8.encode a.content) with
            | .error fault => (([.beside a.path], some (a.path, fault)), { w with files := fs })
            | .ok fs =>
              (((.beside a.path :: (Workspace.run { w with files := fs } (stage overwrite rest)).1.1),
                (Workspace.run { w with files := fs } (stage overwrite rest)).1.2),
                (Workspace.run { w with files := fs } (stage overwrite rest)).2) := by
  rw [stage, Workspace.run_bind, Workspace.run_kind?]
  cases w.files.kind? w.here a.path with
  | error fault => rfl
  | ok kind =>
    dsimp only
    split
    · rfl
    · rw [Workspace.run_bind, Workspace.run_makeDirectories]
      rcases w.files.makeDirectories w.here a.path.parent with ⟨fault | _, fs⟩
      · rfl
      · dsimp only
        rw [Workspace.run_bind, Workspace.run_write]
        change _ = match fs.write w.here (Staged.beside a.path).temporary (Text.Utf8.encode a.content) with
          | .error fault => _
          | .ok fs => _
        cases fs.write w.here (Staged.beside a.path).temporary (Text.Utf8.encode a.content) with
        | error fault => rfl
        | ok fs => rfl

/-- What staging one artifact comes to: it is skipped, or staging stops before or in writing its
temporary file, or it is staged, and then the rest follows. -/
inductive StageStep (overwrite : Bool) (dir : Path) (artifacts : List Artifact) (before : FileSystem)
    (status : Artifact → Status) (a : Artifact) (w w' : Workspace) : Prop
  | skipped (h : Underway dir w.here artifacts before status w'.files)
      (hskips : Skips overwrite dir w.here before a)
      (hrun : ∀ rest, w.run (stage overwrite (a :: rest)) = w'.run (stage overwrite rest))
  | stopped (fault : FileFault) (h : Underway dir w.here artifacts before status w'.files)
      (hname : fault = .nameless → a.path.isNameable = false)
      (hrun : ∀ rest, w.run (stage overwrite (a :: rest)) = (([], some (a.path, fault)), w'))
  | blocked (fault : FileFault) (h : Underway dir w.here artifacts before status w'.files)
      (hname : fault = .nameless → a.path.isNameable = false) (hblocked : Blocked w.here w'.files a)
      (hrun : ∀ rest,
        w.run (stage overwrite (a :: rest)) = (([.beside a.path], some (a.path, fault)), w'))
  | staged (h : Underway dir w.here artifacts before (Function.update status a .staged) w'.files)
      (hrun : ∀ rest, w.run (stage overwrite (a :: rest)) =
        ((.beside a.path :: (w'.run (stage overwrite rest)).1.1, (w'.run (stage overwrite rest)).1.2),
          (w'.run (stage overwrite rest)).2))

/-- Staging one artifact is such a step. -/
theorem exists_stageStep (hs : Siblings dir artifacts) (overwrite : Bool) (ha : a ∈ artifacts)
    {w : Workspace} (hstart : w.files.node? (dir.start w.here) = some .directory)
    (h : Underway dir w.here artifacts before status w.files) (huntouched : status a = .untouched) :
    ∃ w' : Workspace, w'.here = w.here ∧ w'.files.node? (dir.start w.here) = some .directory ∧
      StageStep overwrite dir artifacts before status a w w' := by
  have hholds := h.each a ha
  rw [huntouched] at hholds
  cases hkind : w.files.kind? w.here a.path with
  | error fault =>
    refine ⟨w, rfl, hstart, .stopped fault h ?_ fun rest => ?_⟩
    · rintro rfl
      exact absurd hkind kind?_ne_nameless
    · rw [run_stage_cons, hkind]
  | ok kind =>
    by_cases hexists : (kind.isSome && !overwrite) = true
    · obtain ⟨hsome, hkeep⟩ := Bool.and_eq_true_iff.1 hexists
      obtain ⟨k, rfl⟩ := Option.isSome_iff_exists.1 hsome
      refine ⟨{ w with notices := w.notices ++ [.skipped a.path] }, rfl, hstart,
        .skipped h ⟨by simpa using hkeep, skips_of_kind? hholds.1 hkind⟩ fun rest => ?_⟩
      simp only [run_stage_cons, hkind, hexists, if_true]
    · have hway := makesWay_makeDirectories w.files w.here dir hstart
      rcases hmade : w.files.makeDirectories w.here dir with ⟨fault | _, fs⟩
      · rw [hmade] at hway
        refine ⟨{ w with files := fs }, rfl, hway.grows.node?_eq hstart,
          .stopped fault (h.grow hway.grows) ?_ fun rest => ?_⟩
        · rintro rfl
          have hname : dir.isNameable = false :=
            Bool.eq_false_iff.2 fun hname => hway.fault hname rfl
          rw [hs.path a ha, Path.isNameable_child, hname, Bool.false_and]
        · simp only [run_stage_cons, hkind, hexists, Bool.false_eq_true, if_false, hs.parent ha, hmade]
      · rw [hmade] at hway
        have hopens := hway.opens rfl
        have hgrown := h.grow hway.grows
        cases hwrite : fs.write w.here (temporaryPath a) (Text.Utf8.encode a.content) with
        | error fault =>
          obtain ⟨hblocked, hname⟩ := blocked_of_write hs ha hopens hwrite
          refine ⟨{ w with files := fs }, rfl, hway.grows.node?_eq hstart,
            .blocked fault hgrown hname hblocked fun rest => ?_⟩
          simp only [run_stage_cons, hkind, hexists, Bool.false_eq_true, if_false, hs.parent ha, hmade,
            hwrite]
        | ok fs' =>
          have hstaged := hgrown.stage hs ha huntouched hopens hwrite
          refine ⟨{ w with files := fs' }, rfl, ?_, .staged hstaged fun rest => ?_⟩
          · exact (hstaged.ready a ha (Function.update_self ..)).2 _ (start_mem_inside dir w.here)
          · simp only [run_stage_cons, hkind, hexists, Bool.false_eq_true, if_false, hs.parent ha, hmade,
              hwrite]

/-- Staging makes directories on the way and temporary files, and nothing else. -/
theorem exists_staging (hs : Siblings dir artifacts) (overwrite : Bool) (rest : List Artifact)
    (hsub : ∀ a ∈ rest, a ∈ artifacts) (hnodup : rest.Nodup) (w : Workspace)
    (hstart : w.files.node? (dir.start w.here) = some .directory)
    (h : Underway dir w.here artifacts before status w.files) (hrest : ∀ a ∈ rest, status a = .untouched) :
    ∃ answer w' status', w.run (stage overwrite rest) = (answer, w') ∧ w'.here = w.here ∧
      (∀ a, a ∉ rest → status' a = status a) ∧
      Underway dir w.here artifacts before status' w'.files ∧
      StagingEnd overwrite dir w.here before w'.files status' rest answer := by
  induction rest generalizing w status with
  | nil =>
    exact ⟨([], none), w, status, rfl, rfl, fun _ _ => rfl, h, .done (by simp)⟩
  | cons a rest ih =>
    have hnothing : stagedOf status (a :: rest) = [] := stagedOf_of_untouched hrest
    obtain ⟨ha, hsub⟩ := List.forall_mem_cons.1 hsub
    obtain ⟨hnew, hnodup⟩ := List.nodup_cons.1 hnodup
    obtain ⟨huntouched, hrest⟩ := List.forall_mem_cons.1 hrest
    obtain ⟨w', hhere, hstart, hstep⟩ := exists_stageStep hs overwrite ha hstart h huntouched
    rw [← hhere] at hstart
    cases hstep with
    | skipped h hskips hrun =>
      rw [← hhere] at h
      obtain ⟨answer, w₁, status', hrest, hhere', hkept, hunder, hend⟩ := ih hsub hnodup w' hstart h hrest
      refine ⟨answer, w₁, status', (hrun rest).trans hrest, hhere'.trans hhere, fun b hb => ?_,
        hhere ▸ hunder, ?_⟩
      · exact hkept b fun hmem => hb (List.mem_cons_of_mem _ hmem)
      · rw [hhere] at hend
        exact hend.cons_skipped ((hkept a hnew).trans huntouched) hskips
    | stopped fault h hname hrun =>
      refine ⟨_, w', status, hrun rest, hhere, fun _ _ => rfl, h, ?_⟩
      rw [← hnothing]
      exact .stopped List.mem_cons_self hname
    | blocked fault h hname hblocked hrun =>
      refine ⟨_, w', status, hrun rest, hhere, fun _ _ => rfl, h, ?_⟩
      have hend : StagingEnd overwrite dir w.here before w'.files status (a :: rest)
          (stagedOf status (a :: rest) ++ [.beside a.path], some (a.path, fault)) :=
        .blocked List.mem_cons_self hname huntouched hblocked
      rwa [hnothing] at hend
    | staged h hrun =>
      rw [← hhere] at h
      have hother : ∀ b ∈ rest, Function.update status a .staged b = .untouched := fun b hb => by
        rw [Function.update_of_ne (by rintro rfl; exact hnew hb)]
        exact hrest b hb
      obtain ⟨answer, w₁, status', hrest, hhere', hkept, hunder, hend⟩ := ih hsub hnodup w' hstart h hother
      have hstaged : status' a = .staged := (hkept a hnew).trans (Function.update_self ..)
      refine ⟨(.beside a.path :: answer.1, answer.2), w₁, status', ?_, hhere'.trans hhere, fun b hb => ?_,
        hhere ▸ hunder, ?_⟩
      · rw [hrun, hrest]
      · obtain ⟨hne, hmem⟩ := not_or.1 (List.mem_cons.not.1 hb)
        rw [hkept b hmem, Function.update_of_ne hne]
      · rw [hhere] at hend
        exact hend.cons_staged hstaged

end Monomorph.Build
