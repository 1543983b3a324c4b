import Monomorph.Proofs.Build.Staging
import Monomorph.Proofs.FileSystem.Extend
import Monomorph.Proofs.FileSystem.Obstacle

/-!
Commits that have been made before. Where an earlier commit of the same artifacts has left its traces,
another one comes to the same answer, and leaves the files exactly as they are: what it stages comes last
among the nodes and is taken away again, and what it moves replaces a file by itself.
-/

namespace Monomorph.Build

open FileSystem

/-- The temporary files of some artifacts, as nodes. -/
def temporaries (here : Place) (as : List Artifact) : List (Place × Node) :=
  as.map fun a => (temporaryPlace here a, .file (Text.Utf8.encode a.content))

/-- The artifact can be staged, and its temporary file would be new. -/
structure Ready (overwrite : Bool) (dir : Path) (here : Place) (fs : FileSystem) (a : Artifact) : Prop where
  opens : fs.Opens here dir
  fit : (temporaryPath a).IsFit
  free : fs.node? (temporaryPlace here a) = none
  tries : overwrite = true ∨ fs.node? (targetPlace here a) = none

/-- The artifact is there and may not be overwritten. -/
def Kept (overwrite : Bool) (here : Place) (fs : FileSystem) (a : Artifact) : Prop :=
  overwrite = false ∧ fs.Finds here a.path

variable {overwrite : Bool} {dir : Path} {here : Place} {fs : FileSystem}
  {all as done pre post rest staged : List Artifact} {a b : Artifact} {w w' : Workspace} {fault : FileFault}

theorem temporaries_cons (here : Place) (a : Artifact) (as : List Artifact) : temporaries here (a :: as) =
    (temporaryPlace here a, .file (Text.Utf8.encode a.content)) :: temporaries here as := rfl

theorem temporaries_append (here : Place) (as bs : List Artifact) :
    temporaries here (as ++ bs) = temporaries here as ++ temporaries here bs := List.map_append

theorem temporaryPlace_not_mem (hs : Siblings dir all) (hdone : ∀ b ∈ done, b ∈ all) (ha : a ∈ all)
    (hnew : a ∉ done) : temporaryPlace here a ∉ (temporaries here done).map (·.1) := by
  rw [temporaries, List.map_map]
  intro hmem
  obtain ⟨b, hb, hplace⟩ := List.mem_map.1 hmem
  exact hnew (hs.eq_of_temporaryPlace (hdone b hb) ha hplace ▸ hb)

theorem targetPlace_not_mem (hs : Siblings dir all) (hdone : ∀ b ∈ done, b ∈ all) (ha : a ∈ all) :
    targetPlace here a ∉ (temporaries here done).map (·.1) := by
  rw [temporaries, List.map_map]
  intro hmem
  obtain ⟨b, hb, hplace⟩ := List.mem_map.1 hmem
  exact hs.targetPlace_ne_temporaryPlace ha (hdone b hb) hplace.symm

theorem reaches_of_opens (hs : Siblings dir all) (ha : a ∈ all) (hopens : fs.Opens here dir) :
    fs.Reaches here a.path ∧ fs.Reaches here (temporaryPath a) := by
  have htarget := hopens.reaches_child a.path.name
  have htemporary := hopens.reaches_child (a.path.name ++ temporaryEnding)
  rw [← hs.path a ha] at htarget
  rw [← hs.temporaryPath_eq ha] at htemporary
  exact ⟨htarget, htemporary⟩

/-! ### Staging again -/

/-- What is ready is staged after what is staged already. -/
theorem exists_stage_ready (hs : Siblings dir all) (hdone : ∀ b ∈ done, b ∈ all) (ha : a ∈ all)
    (hnew : a ∉ done) (h : Ready overwrite dir w.here fs a)
    (hfiles : w.files = fs.extend (temporaries w.here done)) :
    ∃ w' : Workspace, w'.here = w.here ∧ w'.files = fs.extend (temporaries w.here (done ++ [a])) ∧
      ∀ rest, w.run (stage overwrite (a :: rest)) = ((.beside a.path :: (w'.run (stage overwrite rest)).1.1,
        (w'.run (stage overwrite rest)).1.2), (w'.run (stage overwrite rest)).2) := by
  have hopens := (covers_extend fs (temporaries w.here done)).opens h.opens
  obtain ⟨htarget, htemporary⟩ := reaches_of_opens hs ha hopens
  have hfit := hs.isFit ha h.fit
  have hkind : (fs.extend (temporaries w.here done)).kind? w.here a.path =
      .ok ((fs.node? (targetPlace w.here a)).map (·.kind)) := by
    rw [kind?_of_reaches hfit htarget]
    exact congrArg (fun n => Except.ok (Option.map Node.kind n))
      (node?_extend_of_not_mem (targetPlace_not_mem hs hdone ha))
  have hfree : (((fs.node? (targetPlace w.here a)).map (·.kind)).isSome && !overwrite) = false := by
    rcases h.tries with hoverwrite | hnone
    · rw [hoverwrite, Bool.not_true, Bool.and_false]
    · rw [hnone]
      rfl
  have hdir : dir.IsFit := by
    rw [hs.path a ha] at hfit
    exact hfit.of_child
  have hnone : (fs.extend (temporaries w.here done)).node? (temporaryPlace w.here a) = none :=
    (node?_extend_of_not_mem (temporaryPlace_not_mem hs hdone ha hnew)).trans h.free
  have hwrite : (fs.extend (temporaries w.here done)).write w.here (temporaryPath a)
      (Text.Utf8.encode a.content) = .ok (fs.extend (temporaries w.here (done ++ [a]))) := by
    refine write_eq_ok_iff.2 ⟨h.fit, htemporary, ?_, ?_⟩
    · rw [show FileSystem.node? _ ((temporaryPath a).placeFrom w.here) = none from hnone]
      simp
    · rw [temporaries_append, ← extend_extend]
      exact (put_of_none (hs.temporaryPlace_ne_nil ha) hnone).symm
  refine ⟨{ w with files := fs.extend (temporaries w.here (done ++ [a])) }, rfl, rfl, fun rest => ?_⟩
  rw [run_stage_cons, hfiles, hkind, hs.parent ha]
  simp only [hfree, Bool.false_eq_true, if_false, makeDirectories_of_opens hdir hopens, hwrite]

/-- Staging passes by what is kept, and stages what is ready, after what is staged already. -/
theorem exists_stage_passable (hs : Siblings dir all) (hsub : ∀ a ∈ pre, a ∈ all)
    (hdone : ∀ a ∈ done, a ∈ all) (hnodup : (done ++ pre).Nodup)
    (h : ∀ a ∈ pre, Kept overwrite w.here fs a ∨ Ready overwrite dir w.here fs a)
    (hfiles : w.files = fs.extend (temporaries w.here done)) :
    ∃ (staged : List Artifact) (w' : Workspace), w'.here = w.here ∧ w'.files = fs.extend (temporaries w.here (done ++ staged)) ∧
      staged.Sublist pre ∧ (∀ a ∈ staged, Ready overwrite dir w.here fs a) ∧
      ∀ rest, w.run (stage overwrite (pre ++ rest)) = ((besides staged ++ (w'.run (stage overwrite rest)).1.1,
        (w'.run (stage overwrite rest)).1.2), (w'.run (stage overwrite rest)).2) := by
  induction pre generalizing w done with
  | nil =>
    refine ⟨[], w, rfl, ?_, .refl _, by simp, fun rest => rfl⟩
    rw [hfiles, List.append_nil]
  | cons a pre ih =>
    obtain ⟨ha, hsub⟩ := List.forall_mem_cons.1 hsub
    obtain ⟨hfirst, hrest⟩ := List.forall_mem_cons.1 h
    by_cases hready : Ready overwrite dir w.here fs a
    · have hnew : a ∉ done := fun hmem => (List.nodup_append.1 hnodup).2.2 a hmem a List.mem_cons_self rfl
      obtain ⟨w₁, hhere, hfiles₁, hrun⟩ := exists_stage_ready hs hdone ha hnew hready hfiles
      rw [← hhere] at hfiles₁ hrest
      have hnodup' : (done ++ [a] ++ pre).Nodup := by rwa [List.append_assoc]
      obtain ⟨staged, w', hhere', hfiles', hsublist, hready', hrun'⟩ := ih hsub
        (List.forall_mem_append.2 ⟨hdone, List.forall_mem_singleton.2 ha⟩) hnodup' hrest hfiles₁
      refine ⟨a :: staged, w', hhere'.trans hhere, ?_, hsublist.cons_cons _, ?_, fun rest => ?_⟩
      · rw [hfiles', hhere, List.append_assoc]
        rfl
      · rw [hhere] at hready'
        exact List.forall_mem_cons.2 ⟨hready, hready'⟩
      · rw [List.cons_append, hrun, hrun']
        rfl
    · obtain ⟨hkeep, hfinds⟩ := hfirst.resolve_right hready
      obtain ⟨kind, hkind⟩ := (covers_extend fs (temporaries w.here done)).finds hfinds
      have hskip : ∀ rest, w.run (stage overwrite (a :: rest)) =
          ({ w with notices := w.notices ++ [.skipped a.path] } : Workspace).run (stage overwrite rest) := by
        intro rest
        rw [run_stage_cons, hfiles, hkind]
        simp [hkeep]
      have hnodup' : (done ++ pre).Nodup := hnodup.sublist ((List.sublist_cons_self a pre).append_left done)
      obtain ⟨staged, w', hhere', hfiles', hsublist, hready', hrun'⟩ := ih hsub hdone hnodup'
        (w := { w with notices := w.notices ++ [.skipped a.path] }) hrest hfiles
      refine ⟨staged, w', hhere', hfiles', hsublist.cons _, hready', fun rest => ?_⟩
      rw [List.cons_append, hskip, hrun']

/-! ### Taking back and moving again -/

/-- What has been staged is taken back. -/
theorem exists_discard_extend (hs : Siblings dir all) (hsub : ∀ a ∈ staged, a ∈ all) (hnodup : staged.Nodup)
    (h : ∀ a ∈ staged, Ready overwrite dir w.here fs a)
    (hfiles : w.files = fs.extend (temporaries w.here staged)) :
    ∃ w', w.run (discard (besides staged)) = (.ok (), w') ∧ w'.here = w.here ∧ w'.files = fs := by
  induction staged generalizing w with
  | nil =>
    refine ⟨w, rfl, rfl, ?_⟩
    rw [hfiles]
    exact extend_nil fs
  | cons a staged ih =>
    obtain ⟨ha, hsub⟩ := List.forall_mem_cons.1 hsub
    obtain ⟨hnew, hnodup⟩ := List.nodup_cons.1 hnodup
    obtain ⟨hfirst, hrest⟩ := List.forall_mem_cons.1 h
    have hopens := (covers_extend fs (temporaries w.here (a :: staged))).opens hfirst.opens
    have hfile : (fs.extend (temporaries w.here (a :: staged))).node? (temporaryPlace w.here a) =
        some (.file (Text.Utf8.encode a.content)) := by
      rw [node?_extend, hfirst.free, Option.none_or, temporaries_cons, List.lookup_cons_self]
    have hremove := remove_of_file hfirst.fit (reaches_of_opens hs ha hopens).2 hfile
    have herase : (fs.extend (temporaries w.here (a :: staged))).erase ((temporaryPath a).placeFrom w.here) =
        fs.extend (temporaries w.here staged) :=
      erase_extend_cons (hs.temporaryPlace_ne_nil ha) hfirst.free (temporaryPlace_not_mem hs hsub ha hnew)
    obtain ⟨w', hrun, hhere, hfiles'⟩ := ih (w := { w with files := fs.extend (temporaries w.here staged) })
      hsub hnodup hrest rfl
    refine ⟨w', ?_, hhere, hfiles'⟩
    rw [besides, List.map_cons, run_discard_cons, hfiles, hremove, herase]
    exact hrun

/-- What has been staged is moved, and replaces the same file. -/
theorem exists_publish_extend (hs : Siblings dir all) (hsub : ∀ a ∈ staged, a ∈ all) (hnodup : staged.Nodup)
    (h : ∀ a ∈ staged, Ready overwrite dir w.here fs a ∧
      fs.node? (targetPlace w.here a) = some (.file (Text.Utf8.encode a.content)))
    (hfiles : w.files = fs.extend (temporaries w.here staged)) :
    ∃ written w', w.run (publish (besides staged)) = (.ok written, w') ∧ w'.here = w.here ∧
      w'.files = fs := by
  induction staged generalizing w with
  | nil =>
    refine ⟨[], w, rfl, rfl, ?_⟩
    rw [hfiles]
    exact extend_nil fs
  | cons a staged ih =>
    obtain ⟨ha, hsub⟩ := List.forall_mem_cons.1 hsub
    obtain ⟨hnew, hnodup⟩ := List.nodup_cons.1 hnodup
    obtain ⟨⟨hfirst, hcontent⟩, hrest⟩ := List.forall_mem_cons.1 h
    have hopens := (covers_extend fs (temporaries w.here (a :: staged))).opens hfirst.opens
    obtain ⟨htarget, htemporary⟩ := reaches_of_opens hs ha hopens
    have hfile : (fs.extend (temporaries w.here (a :: staged))).node? (temporaryPlace w.here a) =
        some (.file (Text.Utf8.encode a.content)) := by
      rw [node?_extend, hfirst.free, Option.none_or, temporaries_cons, List.lookup_cons_self]
    have hthere : (fs.extend (temporaries w.here (a :: staged))).node? (targetPlace w.here a) =
        some (.file (Text.Utf8.encode a.content)) := by
      rw [node?_extend, hcontent, Option.some_or]
    have hafter : ((fs.extend (temporaries w.here (a :: staged))).erase (temporaryPlace w.here a)).put
        (targetPlace w.here a) (.file (Text.Utf8.encode a.content)) =
        fs.extend (temporaries w.here staged) := by
      rw [temporaries_cons, erase_extend_cons (hs.temporaryPlace_ne_nil ha) hfirst.free
        (temporaryPlace_not_mem hs hsub ha hnew)]
      refine put_of_some (hs.targetPlace_ne_nil ha) ?_
      rw [node?_extend, hcontent, Option.some_or]
    have hrename : (fs.extend (temporaries w.here (a :: staged))).rename w.here (temporaryPath a) a.path =
        .ok (fs.extend (temporaries w.here staged)) := by
      rcases rename_of_file hfirst.fit (hs.isFit ha hfirst.fit) htemporary htarget hfile with
        ⟨-, hrename⟩ | ⟨hdir, -⟩
      · rw [hrename]
        exact congrArg Except.ok hafter
      · rw [show FileSystem.node? _ (a.path.placeFrom w.here) = _ from hthere] at hdir
        cases hdir
    obtain ⟨written, w', hrun, hhere, hfiles'⟩ :=
      ih (w := { w with files := fs.extend (temporaries w.here staged) }) hsub hnodup hrest rfl
    refine ⟨a.path :: written, w', ?_, hhere, hfiles'⟩
    rw [besides, List.map_cons, run_publish_cons, hfiles, hrename]
    dsimp only
    rw [show publish (staged.map fun a => Staged.beside a.path) = publish (besides staged) from rfl, hrun]
    rfl

/-! ### Commits again -/

section Commit

variable {c : Config}

theorem Kept.not_ready (h : Kept overwrite here fs a) : ¬ Ready overwrite dir here fs a := by
  obtain ⟨hkeep, hfinds⟩ := h
  rintro ⟨-, -, -, hoverwrite | hnone⟩
  · rw [hkeep] at hoverwrite
    cases hoverwrite
  · exact (finds_iff.1 hfinds).2.2 hnone

/-- What is kept is passed by, and what is there already with its content is replaced by itself. -/
theorem exists_commit_written (hs : Siblings c.output as)
    (h : ∀ a ∈ as, Kept c.overwrite.isTrue w.here w.files a ∨
      Ready c.overwrite.isTrue c.output w.here w.files a ∧
        w.files.node? (targetPlace w.here a) = some (.file (Text.Utf8.encode a.content))) :
    ∃ written w', w.run (commit c as) = (.ok (.ok written), w') ∧ w'.here = w.here ∧
      w'.files = w.files := by
  have hnodup : as.Nodup := .of_map _ hs.nodup
  obtain ⟨staged, w₁, hhere, hfiles, hsublist, hready, hrun⟩ := exists_stage_passable hs (fun _ ha => ha)
    (List.forall_mem_nil _) hnodup (fun a ha => (h a ha).imp_right And.left) (extend_nil w.files).symm
  have hcontent : ∀ a ∈ staged, Ready c.overwrite.isTrue c.output w₁.here w.files a ∧
      w.files.node? (targetPlace w₁.here a) = some (.file (Text.Utf8.encode a.content)) := by
    rw [hhere]
    intro a ha
    rcases h a (hsublist.subset ha) with hkept | hsame
    · exact absurd (hready a ha) hkept.not_ready
    · exact hsame
  rw [List.nil_append, ← hhere] at hfiles
  obtain ⟨written, w', hpublish, hhere', hfiles'⟩ := exists_publish_extend hs
    (fun a ha => hsublist.subset ha) (hnodup.sublist hsublist) hcontent hfiles
  have hstage : w.run (stage c.overwrite.isTrue as) = ((besides staged, none), w₁) := by
    have hall := hrun []
    rwa [List.append_nil, stage, Workspace.run_pure, List.append_nil] at hall
  refine ⟨written, w', ?_, hhere'.trans hhere, hfiles'⟩
  rw [run_commit_of_staged hstage, hpublish]
  rfl

/-- What is staged before a path that is too long is taken back. -/
theorem exists_commit_tooLong (hs : Siblings c.output (pre ++ a :: post))
    (h : ∀ b ∈ pre, Kept c.overwrite.isTrue w.here w.files b ∨
      Ready c.overwrite.isTrue c.output w.here w.files b)
    (hlong : w.files.place? w.here a.path = .error .nameTooLong) :
    ∃ w', w.run (commit c (pre ++ a :: post)) = (.ok (.error (.unwritable a.path .nameTooLong)), w') ∧
      w'.here = w.here ∧ w'.files = w.files := by
  have hsub : ∀ b ∈ pre, b ∈ pre ++ a :: post := fun b hb => List.mem_append_left _ hb
  have hnodup : pre.Nodup := (List.Nodup.of_map _ hs.nodup).sublist (List.sublist_append_left _ _)
  obtain ⟨staged, w₁, hhere, hfiles, hsublist, hready, hrun⟩ := exists_stage_passable hs hsub
    (List.forall_mem_nil _) hnodup h (extend_nil w.files).symm
  rw [List.nil_append, ← hhere] at hfiles
  rw [← hhere] at hready
  obtain ⟨w', hdiscard, hhere', hfiles'⟩ := exists_discard_extend hs
    (fun b hb => hsub b (hsublist.subset hb)) (hnodup.sublist hsublist) hready hfiles
  have hkind : w₁.files.kind? w₁.here a.path = .error .nameTooLong := by
    rw [hfiles, hhere]
    exact kind?_tooLong (place?_tooLong hlong (covers_extend _ _).directory)
  have hstage : w.run (stage c.overwrite.isTrue (pre ++ a :: post)) =
      ((besides staged, some (a.path, .nameTooLong)), w₁) := by
    rw [hrun, run_stage_cons, hkind, List.append_nil]
  refine ⟨w', ?_, hhere'.trans hhere, hfiles'⟩
  rw [run_commit_of_stopped hstage (by simp), hdiscard]
  rfl

/-- Where the output directory cannot be made the first artifact cannot be written. -/
theorem exists_commit_shut (hs : Siblings c.output (a :: post))
    (hshut : w.files.makeDirectories w.here c.output = (.error fault, w.files))
    (hkind : w.files.kind? w.here a.path = .ok none ∨
      w.files.kind? w.here a.path = .error .nameTooLong ∧ fault = .nameTooLong)
    (hfault : fault ≠ .nameless) :
    ∃ w', w.run (commit c (a :: post)) = (.ok (.error (.unwritable a.path fault)), w') ∧
      w'.here = w.here ∧ w'.files = w.files := by
  have hstage : w.run (stage c.overwrite.isTrue (a :: post)) = (([], some (a.path, fault)), w) := by
    rw [run_stage_cons, hs.parent List.mem_cons_self]
    rcases hkind with hkind | ⟨hkind, rfl⟩
    · rw [hkind]
      dsimp only
      rw [Option.isSome_none, Bool.false_and, if_neg Bool.false_ne_true, hshut]
    · rw [hkind]
  refine ⟨w, ?_, rfl, rfl⟩
  rw [run_commit_of_stopped hstage hfault]
  rfl

end Commit

end Monomorph.Build
