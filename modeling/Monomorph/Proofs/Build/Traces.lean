import Monomorph.Proofs.Build.Frame
import Monomorph.Proofs.Build.Settled

/-!
The traces of a commit: what a commit that has answered leaves behind, as far as another commit of the same
artifacts needs it. Later commits of a build do not efface them, so that the same commit can be made once
more at the end, and comes to the same.
-/

namespace Monomorph.Build

open FileSystem

variable {c : Config} {overwrite : Bool} {dir : Path} {here : Place} {fs fs' before middle after : FileSystem}
  {all as pre post rest staged : List Artifact} {a b : Artifact} {w w' w₁ v : Workspace} {path : Path}
  {fault : FileFault} {result : Except BuildError (List Path)}

/-! ### Where staging stops -/

/-- Why staging has stopped: the output directory cannot be made, so that nothing has been staged; or a path
is too long, after some artifacts; or a temporary file cannot be written. -/
inductive Stop (overwrite : Bool) (dir : Path) (here : Place) (before after : FileSystem) :
    List Artifact → List Artifact → Path → FileFault → Prop
  | shut {a : Artifact} {post : List Artifact} {fault : FileFault} (tries : Tries overwrite here before a)
      (made : before.makeDirectories here dir = (.error fault, after)) :
      Stop overwrite dir here before after (a :: post) [] a.path fault
  | tooLong {pre post staged : List Artifact} {a : Artifact} (sublist : staged.Sublist pre)
      (passed : ∀ b ∈ pre, b ∈ staged ∨ overwrite = false ∧ after.Finds here b.path)
      (ready : ∀ b ∈ staged, after.Opens here dir ∧ (temporaryPath b).IsFit)
      (long : after.place? here a.path = .error .nameTooLong) :
      Stop overwrite dir here before after (pre ++ a :: post) staged a.path .nameTooLong
  | unwritten {as staged : List Artifact} {a : Artifact} {fault : FileFault} (last : a ∈ staged)
      (open_ : after.Opens here dir)
      (wrote : after.write here (temporaryPath a) (Text.Utf8.encode a.content) = .error fault) :
      Stop overwrite dir here before after as staged a.path fault

namespace Stop

theorem cons_skipped (h : Stop overwrite dir here fs fs' as staged path fault) (hdir : fs.Opens here dir)
    (hfit : dir.IsFit) (hkeep : overwrite = false) (hfinds : fs'.Finds here a.path) :
    Stop overwrite dir here before fs' (a :: as) staged path fault := by
  cases h with
  | shut _ made => exact absurd ⟨hfit, hdir⟩ (not_opens_of_makeDirectories made)
  | @tooLong pre post _ b sublist passed ready long =>
    have hsplit : a :: (pre ++ b :: post) = (a :: pre) ++ b :: post := rfl
    rw [hsplit]
    exact .tooLong (sublist.cons a) (List.forall_mem_cons.2 ⟨.inr ⟨hkeep, hfinds⟩, passed⟩) ready long
  | unwritten last open_ wrote => exact .unwritten last open_ wrote

theorem cons_staged (h : Stop overwrite dir here fs fs' as staged path fault) (hdir : fs.Opens here dir)
    (hfit : dir.IsFit) (hopens : fs'.Opens here dir) (htemporary : (temporaryPath a).IsFit) :
    Stop overwrite dir here before fs' (a :: as) (a :: staged) path fault := by
  cases h with
  | shut _ made => exact absurd ⟨hfit, hdir⟩ (not_opens_of_makeDirectories made)
  | @tooLong pre post _ b sublist passed ready long =>
    have hsplit : a :: (pre ++ b :: post) = (a :: pre) ++ b :: post := rfl
    rw [hsplit]
    refine .tooLong (sublist.cons_cons a) (List.forall_mem_cons.2 ⟨.inl List.mem_cons_self, ?_⟩)
      (List.forall_mem_cons.2 ⟨⟨hopens, htemporary⟩, ready⟩) long
    exact fun b hb => (passed b hb).imp_left (List.mem_cons_of_mem _)
  | unwritten last open_ wrote => exact .unwritten (List.mem_cons_of_mem _ last) open_ wrote

end Stop

theorem opens_of_finds (hpath : a.path = dir.child a.path.name) (hfinds : fs.Finds here a.path) :
    fs.Opens here dir ∧ dir.IsFit := by
  obtain ⟨hfit, hreaches, -⟩ := finds_iff.1 hfinds
  rw [hpath] at hfit hreaches
  rw [Reaches, above_child] at hreaches
  exact ⟨hreaches, hfit.of_child⟩

/-- Staging stops for one of these reasons. -/
theorem Stages.stop (h : Stages overwrite dir here fs as staged (some (path, fault)) fs')
    (hpaths : ∀ a ∈ as, a.path = dir.child a.path.name)
    (hstart : fs.node? (dir.start here) = some .directory) :
    Stop overwrite dir here fs fs' as staged path fault := by
  generalize hstop : some (path, fault) = stop at h
  induction h with
  | nil => cases hstop
  | @skipped fs fs' a rest staged stop keep finds next ih =>
    obtain ⟨hpath, hrest⟩ := List.forall_mem_cons.1 hpaths
    obtain ⟨hopens, hfit⟩ := opens_of_finds hpath finds
    exact (ih hrest hstart hstop).cons_skipped hopens hfit keep ((next.covers hstart).finds finds)
  | @lost fs a rest fault' kind =>
    cases hstop
    obtain ⟨rfl, hlong⟩ := place?_of_kind?_error kind
    have hsplit : a :: rest = [] ++ a :: rest := rfl
    rw [hsplit]
    exact .tooLong (.refl _) (by simp) (by simp) hlong
  | shut tries made =>
    cases hstop
    exact .shut tries made
  | unwritten tries made wrote =>
    cases hstop
    exact .unwritten List.mem_cons_self (opens_of_made hstart made) wrote
  | @staged fs fs₁ fs₂ fs' a rest staged stop tries made wrote next ih =>
    obtain ⟨hpath, hrest⟩ := List.forall_mem_cons.1 hpaths
    have hcovers := (covers_of_made hstart made).trans (covers_of_write wrote)
    have hstart' := hcovers.directory _ hstart
    have hopens := (covers_of_write wrote).opens (opens_of_made hstart made)
    have hfit := (write_eq_ok_iff.1 wrote).1
    have hdir : dir.IsFit := by
      have hparent : a.path.parent = dir := by rw [hpath, Path.parent_child]
      have htemporary : temporaryPath a = dir.child (a.path.name ++ temporaryEnding) := by
        rw [← hparent]
        rfl
      rw [htemporary] at hfit
      exact hfit.of_child
    exact (ih hrest hstart' hstop).cons_staged hopens hdir ((next.covers hstart').opens hopens) hfit

/-! ### What a commit leaves -/

/-- Taking back a temporary file that its path leads to, or that is gone already. -/
theorem exists_gone_of_discard_cons {more : List Staged}
    (hreaches : w.files.Reaches w.here (temporaryPath a))
    (h : w.run (discard (.beside a.path :: more)) = (.ok (), w')) :
    ∃ fs, Workspace.run { w with files := fs } (discard more) = (.ok (), w') ∧ (temporaryPath a).IsFit ∧
      w.files.node? (temporaryPlace w.here a) ≠ some .directory ∧
      ∀ q, fs.node? q = if q = temporaryPlace w.here a then none else w.files.node? q := by
  rw [run_discard_cons] at h
  cases hremove : w.files.remove w.here (temporaryPath a) with
  | ok fs =>
    rw [hremove] at h
    obtain ⟨hfit, -, ⟨content, hfile⟩, rfl⟩ := remove_eq_ok_iff.1 hremove
    have hnode : w.files.node? (temporaryPlace w.here a) = some (.file content) := hfile
    refine ⟨_, h, hfit, by simp [hnode], node?_erase ?_⟩
    intro hnil
    rw [hnil] at hfile
    cases hfile
  | error fault =>
    rw [hremove] at h
    cases fault with
    | missing =>
      rcases remove_eq_missing hremove with hplace | ⟨hfit, hnone⟩
      · exact absurd hplace (place?_ne_missing hreaches)
      · have hnode : w.files.node? (temporaryPlace w.here a) = none := hnone
        refine ⟨w.files, h, hfit, by simp [hnode], fun q => ?_⟩
        split
        · next hq => rw [hq, hnode]
        · rfl
    | _ => cases h

/-- What has been taken back is gone, and was no directory. Nothing else is gone. -/
theorem gone_of_discard (hs : Siblings dir all) (hsub : ∀ a ∈ staged, a ∈ all)
    (hopens : staged ≠ [] → w.files.Opens w.here dir)
    (h : w.run (discard (besides staged)) = (.ok (), w')) :
    w'.here = w.here ∧
      (∀ a ∈ staged, (temporaryPath a).IsFit ∧ w'.files.node? (temporaryPlace w.here a) = none) ∧
      (∀ q, (∀ a ∈ staged, q ≠ temporaryPlace w.here a) → w'.files.node? q = w.files.node? q) ∧
      ∀ q, w.files.node? q = some .directory → w'.files.node? q = some .directory := by
  induction staged generalizing w with
  | nil =>
    rw [besides, List.map_nil, discard, Workspace.run_pure] at h
    cases h
    exact ⟨rfl, by simp, fun _ _ => rfl, fun _ => id⟩
  | cons a staged ih =>
    obtain ⟨ha, hsub⟩ := List.forall_mem_cons.1 hsub
    have hopen := hopens (List.cons_ne_nil _ _)
    rw [besides, List.map_cons] at h
    obtain ⟨fs, hrest, hfit, hfile, hnode⟩ :=
      exists_gone_of_discard_cons (reaches_of_opens hs ha hopen).2 h
    have hdirectory : ∀ q, w.files.node? q = some .directory → fs.node? q = some .directory := by
      intro q hq
      rw [hnode, if_neg, hq]
      rintro rfl
      exact hfile hq
    obtain ⟨hhere, hgone, hkept, hkeptDirectory⟩ := ih (w := { w with files := fs }) hsub
      (fun _ q hq => hdirectory q (hopen q hq)) hrest
    refine ⟨hhere, List.forall_mem_cons.2 ⟨⟨hfit, ?_⟩, hgone⟩, fun q hq => ?_, fun q hq => ?_⟩
    · by_cases hmem : ∃ b ∈ staged, temporaryPlace w.here a = temporaryPlace w.here b
      · obtain ⟨b, hb, hsame⟩ := hmem
        rw [hsame]
        exact (hgone b hb).2
      · rw [hkept _ fun b hb heq => hmem ⟨b, hb, heq⟩]
        exact (hnode _).trans (if_pos rfl)
    · obtain ⟨hfirst, hrest⟩ := List.forall_mem_cons.1 hq
      rw [hkept q hrest]
      exact (hnode q).trans (if_neg hfirst)
    · exact hkeptDirectory q (hdirectory q hq)

/-- What a temporary file can be written for can be staged, unless it is there and may not be overwritten. -/
theorem kept_or_ready (overwrite : Bool) (hs : Siblings dir all) (ha : a ∈ all)
    (hopens : fs.Opens here dir) (hfit : (temporaryPath a).IsFit)
    (hfree : fs.node? (temporaryPlace here a) = none) :
    Kept overwrite here fs a ∨ Ready overwrite dir here fs a := by
  by_cases htries : overwrite = true ∨ fs.node? (targetPlace here a) = none
  · exact .inr ⟨hopens, hfit, hfree, htries⟩
  · obtain ⟨hkeep, hnode⟩ := not_or.1 htries
    exact .inl ⟨by simpa using hkeep,
      finds_iff.2 ⟨hs.isFit ha hfit, (reaches_of_opens hs ha hopens).1, hnode⟩⟩

/-- The directory cannot be made, and trying it changes nothing. -/
def Shut (dir : Path) (here : Place) (fs : FileSystem) : Prop :=
  ∃ fault, fs.makeDirectories here dir = (.error fault, fs)

/-- What a commit of some artifacts that has answered has left, as far as another one needs it: each
artifact is kept, or there with its content; or those before the one with a path that is too long are kept
or may be staged; or the output directory cannot be made, for a reason that was one before. -/
inductive Traces (c : Config) (here : Place) (before : FileSystem) (as : List Artifact) (fs : FileSystem) :
    Except BuildError (List Path) → Prop
  | written {paths : List Path} (settled : ∀ a ∈ as, Kept c.overwrite.isTrue here fs a ∨
      Ready c.overwrite.isTrue c.output here fs a ∧
        fs.node? (targetPlace here a) = some (.file (Text.Utf8.encode a.content))) :
      Traces c here before as fs (.ok paths)
  | tooLong {pre post : List Artifact} {a : Artifact} (split : as = pre ++ a :: post)
      (passable : ∀ b ∈ pre, Kept c.overwrite.isTrue here fs b ∨ Ready c.overwrite.isTrue c.output here fs b)
      (long : fs.place? here a.path = .error .nameTooLong) :
      Traces c here before as fs (.error (.unwritable a.path .nameTooLong))
  | shut {post : List Artifact} {a : Artifact} {fault fault' : FileFault} (split : as = a :: post)
      (made : fs.makeDirectories here c.output = (.error fault', fs))
      (kind : fs.kind? here a.path = .ok none ∨
        fs.kind? here a.path = .error .nameTooLong ∧ fault' = .nameTooLong)
      (named : fault' ≠ .nameless) (again : FaultAgain before here c.output fault fault') :
      Traces c here before as fs (.error (.unwritable a.path fault))

section Commit

variable {paths : List Path} {e : BuildError}

/-- Artifacts with paths of their own are known by them. -/
theorem mem_iff_of_map_path (hpaths : (as.map (·.path)).Nodup) (hpre : pre ⊆ as) (hpost : post ⊆ as)
    (h : pre.map (·.path) = post.map (·.path)) (ha : a ∈ as) :
    a ∈ pre ↔ a ∈ post := by
  have hmem : a.path ∈ pre.map (·.path) ↔ a.path ∈ post.map (·.path) := by rw [h]
  rw [List.mem_map, List.mem_map] at hmem
  constructor
  · intro ha'
    obtain ⟨b, hb, hsame⟩ := hmem.1 ⟨a, ha', rfl⟩
    exact List.inj_on_of_nodup_map hpaths (hpost hb) ha hsame ▸ hb
  · intro ha'
    obtain ⟨b, hb, hsame⟩ := hmem.2 ⟨a, ha', rfl⟩
    exact List.inj_on_of_nodup_map hpaths (hpre hb) ha hsame ▸ hb

/-- What a commit leaves that has gone through. -/
theorem traces_of_commit_ok (hrendered : ∀ a ∈ as, a.IsRendered c) (hpaths : (as.map (·.path)).Nodup)
    (htree : IsTree w.files) (hhere : w.files.node? w.here = some .directory)
    (h : w.run (commit c as) = (.ok (.ok paths), w')) :
    Traces c w.here w.files as w'.files (.ok paths) := by
  have hs := siblings_of_rendered hrendered hpaths
  have hstart := start_of_here hhere c.output
  have hcommitted := committed_of_commit (fun a ha => hs.parent ha) h
  have hend := hcommitted.opens_or_grows hs hrendered htree hhere
  cases hcommitted with
  | @published staged _ w₁ _ staging stages here moved =>
  have hwritten := paths_of_publish moved
  rcases hend with hopens | ⟨-, hnothing⟩
  · obtain ⟨answer, w₂, status, hrun, -, hleaves, hend⟩ := exists_commitEnd hrendered hpaths hhere
    rw [h] at hrun
    obtain ⟨rfl, rfl⟩ := Prod.mk.inj hrun
    refine .written fun a ha => ?_
    generalize hanswer : (Except.ok (Except.ok paths) : Except FileFault (Except BuildError (List Path))) =
      answer at hend
    cases hend with
    | unwritable | nameless | untidied | unmoved => cases hanswer
    | written hall =>
      obtain rfl := Except.ok.inj (Except.ok.inj hanswer)
      have hholds := hleaves.each a ha
      have hstaged : ∀ b ∈ as, b ∈ staged ↔ status b = .published := fun b hb => by
        rw [mem_iff_of_map_path hpaths stages.sublist.subset (List.filter_subset_self as) hwritten.symm hb,
          List.mem_filter, decide_eq_true_iff, and_iff_right hb]
      rcases hall a ha with hstatus | ⟨hstatus, -, hthere⟩
      · rw [hstatus] at hholds
        have hfit := (stages.ready hstart a ((hstaged a ha).2 hstatus)).2
        exact (kept_or_ready _ hs ha hopens hfit hholds.2).imp_right fun hready => ⟨hready, hholds.1⟩
      · rw [hstatus] at hholds
        rcases stages.staged_or_finds hstart a ha with hmem | ⟨hkeep, hfinds⟩
        · rw [(hstaged a ha).1 hmem] at hstatus
          cases hstatus
        refine .inl ⟨hkeep, finds_iff.2 ⟨(finds_iff.1 hfinds).1, (reaches_of_opens hs ha hopens).1, ?_⟩⟩
        rcases hthere with hnode | hmem
        · rcases hholds.1 with hsame | ⟨-, hnone, -⟩
          · rwa [← hsame] at hnode
          · exact absurd hnone hnode
        · rw [show a.path.placeFrom w.here = targetPlace w.here a from rfl, hopens _ hmem]
          simp
  · -- nothing was staged, so everything was there and may not be overwritten
    rw [hnothing paths rfl] at hwritten
    obtain rfl : staged = [] := List.map_eq_nil_iff.1 hwritten.symm
    cases moved
    exact .written fun a ha => .inl ((stages.staged_or_finds hstart a ha).resolve_left List.not_mem_nil)

/-- What a commit leaves that has failed. -/
theorem traces_of_commit_error (hrendered : ∀ a ∈ as, a.IsRendered c) (hpaths : (as.map (·.path)).Nodup)
    (hhere : w.files.node? w.here = some .directory)
    (h : w.run (commit c as) = (.ok (.error e), w')) :
    Traces c w.here w.files as w'.files (.error e) := by
  have hs := siblings_of_rendered hrendered hpaths
  have hstart := start_of_here hhere c.output
  cases committed_of_commit (fun a ha => hs.parent ha) h with
  | @withdrawn staged path fault w₁ _ staging stages here named discarded =>
  have hopens := stages.opens hstart
  have hgone := gone_of_discard hs (fun a ha => stages.sublist.subset ha) (by rwa [here]) discarded
  rw [here] at hgone
  obtain ⟨-, hgone, hkept, hdirectory⟩ := hgone
  cases stages.stop hs.path hstart with
  | shut tries made =>
    cases discarded
    obtain ⟨fault', hagain, hrel⟩ := makeDirectories_again hstart made
    obtain ⟨kind, hkind, -⟩ := tries
    have hpath := hs.path _ List.mem_cons_self
    rw [hpath] at hkind
    have hnone := kind?_of_shut hagain hkind
    rw [← hpath] at hnone
    refine .shut rfl hagain hnone ?_ hrel
    rcases hrel with rfl | ⟨-, rfl, -⟩
    · exact named
    · simp
  | @tooLong pre post _ a sublist passed ready long =>
    refine .tooLong rfl (fun b hb => ?_) (place?_tooLong long hdirectory)
    have hb' : b ∈ pre ++ a :: post := List.mem_append_left _ hb
    rcases passed b hb with hmem | ⟨hkeep, hfinds⟩
    · obtain ⟨hopen, hfit⟩ := ready b hmem
      exact kept_or_ready _ hs hb' (fun q hq => hdirectory q (hopen q hq)) hfit (hgone b hmem).2
    · obtain ⟨hfit, hreaches, hnode⟩ := finds_iff.1 hfinds
      refine .inl ⟨hkeep, finds_iff.2 ⟨hfit, fun q hq => hdirectory q (hreaches q hq), ?_⟩⟩
      rwa [hkept]
      exact fun d hd => hs.targetPlace_ne_temporaryPlace hb' (stages.sublist.subset hd)
  | @unwritten _ _ a _ last open_ wrote =>
    obtain ⟨hfit, hnone⟩ := hgone a last
    rcases write_eq_error wrote with hplace | ⟨-, hdir⟩
    · rw [place?_eq_ok_iff.2 ⟨hfit, (reaches_of_opens hs (stages.sublist.subset last) open_).2, rfl⟩] at hplace
      cases hplace
    · cases hnone.symm.trans (hdirectory _ hdir)

end Commit

/-! ### What later commits leave of it -/

section Frame

variable {written attempted : Artifact → Prop}

/-- What can be found is found after a frame. -/
theorem Kept.of_frame (hkept : Kept overwrite here middle a)
    (h : Frame c here middle after written attempted) (ha : a.IsRendered c) :
    Kept overwrite here after a := by
  obtain ⟨hkeep, hfinds⟩ := hkept
  obtain ⟨hfit, hreaches, hnode⟩ := finds_iff.1 hfinds
  exact ⟨hkeep, finds_iff.2 ⟨hfit, fun q hq => h.reached.node?_of_directory (hreaches q hq),
    h.node?_targetPlace_ne_none ha hnode⟩⟩

/-- No frame leaves a temporary file. -/
theorem Frame.free (h : Frame c here middle after written attempted) (ha : a.IsRendered c)
    (hopens : middle.Opens here c.output) (hfree : middle.node? (temporaryPlace here a) = none) :
    after.node? (temporaryPlace here a) = none := by
  cases h.accounted (temporaryPlace here a) with
  | stays h =>
    rcases h with hsame | ⟨hmem, -, -⟩
    · exact hsame.trans hfree
    · rw [hopens _ hmem] at hfree
      cases hfree
  | @target b hb hq => exact absurd hq.symm (targetPlace_ne_temporaryPlace (h.rendered b (.inl hb)) ha)
  | temporary _ _ _ h => exact h

/-- What is settled stays settled. -/
theorem Frame.kept_or_ready (h : Frame c here middle after written attempted) (hs : Siblings c.output as)
    (hmem : a ∈ as) (ha : a.IsRendered c)
    (hsettled : Kept overwrite here middle a ∨ Ready overwrite c.output here middle a) :
    Kept overwrite here after a ∨ Ready overwrite c.output here after a := by
  rcases hsettled with hkept | ⟨hopens, hfit, hfree, -⟩
  · exact .inl (hkept.of_frame h ha)
  · exact Build.kept_or_ready _ hs hmem (fun q hq => h.reached.node?_of_directory (hopens q hq)) hfit
      (h.free ha hopens hfree)

/-- What a commit has left is left after a frame in which none of its artifacts was written, and which
changes nothing if the output directory cannot be made. -/
theorem Traces.of_frame (h : Traces c here before as middle result) (hs : Siblings c.output as)
    (hrendered : ∀ a ∈ as, a.IsRendered c) (hframe : Frame c here middle after written attempted)
    (hother : ∀ a ∈ as, ∀ b, written b → b.path ≠ a.path)
    (hshut : Shut c.output here middle → after = middle) : Traces c here before as after result := by
  cases h with
  | written settled =>
    refine .written fun a ha => ?_
    rcases settled a ha with hkept | ⟨hready, hfile⟩
    · exact .inl (hkept.of_frame hframe (hrendered a ha))
    refine (hframe.kept_or_ready hs ha (hrendered a ha) (.inr hready)).imp_right fun hready => ⟨hready, ?_⟩
    rcases hframe.stays_of_not_written (hrendered a ha) (hother a ha) with hsame | ⟨-, hnone, -⟩
    · exact hsame.trans hfile
    · rw [hfile] at hnone
      cases hnone
  | tooLong split passable long =>
    refine .tooLong split (fun b hb => ?_) (place?_tooLong long fun q => hframe.reached.node?_of_directory)
    have hmem : b ∈ as := split ▸ List.mem_append_left _ hb
    exact hframe.kept_or_ready hs hmem (hrendered b hmem) (passable b hb)
  | shut split made kind named again =>
    rw [hshut ⟨_, made⟩]
    exact .shut split made kind named again

end Frame

/-! ### The same commit once more -/

/-- Two errors of the same commit: they are the same, or the second time a file is in the way where it was
met at the end the first time. -/
inductive Recurs (unsure : Prop) : BuildError → BuildError → Prop
  | same (e : BuildError) : Recurs unsure e e
  | met (h : unsure) (target : Path) :
      Recurs unsure (.unwritable target .alreadyExists) (.unwritable target .notDirectory)

theorem Recurs.mono {unsure unsure' : Prop} {e e' : BuildError} (h : Recurs unsure e e')
    (himp : unsure → unsure') : Recurs unsure' e e' := by
  cases h with
  | same => exact .same e
  | met h target => exact .met (himp h) target

/-- The output directory cannot be made, and its path leads up out of a directory that was missing. -/
def Unsure (c : Config) (here : Place) (before after : FileSystem) : Prop :=
  Shut c.output here after ∧ Climbs before (c.output.start here) c.output.parts

/-- Where a commit has left its traces it comes to the same once more, and leaves the files as they are. -/
theorem Traces.exists_commit (h : Traces c v.here before as v.files result) (hs : Siblings c.output as)
    (htree : IsTree before) : ∃ result' v', v.run (commit c as) = (.ok result', v') ∧ v'.here = v.here ∧
      v'.files = v.files ∧ ((∃ paths paths', result = .ok paths ∧ result' = .ok paths') ∨
        ∃ e e', result = .error e ∧ result' = .error e' ∧ Recurs (Unsure c v.here before v.files) e e') := by
  cases h with
  | @written paths settled =>
    obtain ⟨paths', v', hrun, hhere, hfiles⟩ := exists_commit_written hs settled
    exact ⟨_, v', hrun, hhere, hfiles, .inl ⟨paths, paths', rfl, rfl⟩⟩
  | tooLong split passable long =>
    subst split
    obtain ⟨v', hrun, hhere, hfiles⟩ := exists_commit_tooLong hs passable long
    exact ⟨_, v', hrun, hhere, hfiles, .inr ⟨_, _, rfl, rfl, .same _⟩⟩
  | shut split made kind named again =>
    subst split
    obtain ⟨v', hrun, hhere, hfiles⟩ := exists_commit_shut hs made kind named
    refine ⟨_, v', hrun, hhere, hfiles, .inr ⟨_, _, rfl, rfl, ?_⟩⟩
    rcases again with rfl | ⟨rfl, rfl, hclimbs⟩
    · exact .same _
    · exact .met ⟨⟨_, made⟩, hclimbs htree⟩ _

end Monomorph.Build
