import Monomorph.Proofs.Build.Commit
import Monomorph.Proofs.FileSystem.Tree

/-!
Staging as it runs. Each artifact is skipped because it is there already, or staged, or staging stops at
it, for one of three reasons. What follows from that is said in terms of the paths: which artifacts are
staged, and which directories are open afterwards.
-/

namespace Monomorph.Build

open FileSystem

/-- An artifact is to be staged: nothing is there yet, or it may be overwritten. -/
def Tries (overwrite : Bool) (here : Place) (fs : FileSystem) (a : Artifact) : Prop :=
  ∃ kind, fs.kind? here a.path = .ok kind ∧ (overwrite = true ∨ kind = none)

/-- How staging goes through artifacts: which of them it stages, where it stops, and the files after it. -/
inductive Stages (overwrite : Bool) (dir : Path) (here : Place) :
    FileSystem → List Artifact → List Artifact → Option StagingFault → FileSystem → Prop
  | nil {fs : FileSystem} : Stages overwrite dir here fs [] [] none fs
  | skipped {fs fs' : FileSystem} {a : Artifact} {rest staged : List Artifact} {stop : Option StagingFault}
      (keep : overwrite = false) (finds : fs.Finds here a.path)
      (next : Stages overwrite dir here fs rest staged stop fs') :
      Stages overwrite dir here fs (a :: rest) staged stop fs'
  /-- Nobody can tell what is at the path. -/
  | lost {fs : FileSystem} {a : Artifact} {rest : List Artifact} {fault : FileFault}
      (kind : fs.kind? here a.path = .error fault) :
      Stages overwrite dir here fs (a :: rest) [] (some (a.path, fault)) fs
  /-- The output directory cannot be made. -/
  | shut {fs fs' : FileSystem} {a : Artifact} {rest : List Artifact} {fault : FileFault}
      (tries : Tries overwrite here fs a)
      (made : fs.makeDirectories here dir = (.error fault, fs')) :
      Stages overwrite dir here fs (a :: rest) [] (some (a.path, fault)) fs'
  /-- The temporary file cannot be written. -/
  | unwritten {fs fs' : FileSystem} {a : Artifact} {rest : List Artifact} {fault : FileFault}
      (tries : Tries overwrite here fs a)
      (made : fs.makeDirectories here dir = (.ok (), fs'))
      (wrote : fs'.write here (temporaryPath a) (Text.Utf8.encode a.content) = .error fault) :
      Stages overwrite dir here fs (a :: rest) [a] (some (a.path, fault)) fs'
  | staged {fs fs₁ fs₂ fs' : FileSystem} {a : Artifact} {rest staged : List Artifact}
      {stop : Option StagingFault} (tries : Tries overwrite here fs a)
      (made : fs.makeDirectories here dir = (.ok (), fs₁))
      (wrote : fs₁.write here (temporaryPath a) (Text.Utf8.encode a.content) = .ok fs₂)
      (next : Stages overwrite dir here fs₂ rest staged stop fs') :
      Stages overwrite dir here fs (a :: rest) (a :: staged) stop fs'

variable {overwrite : Bool} {here : Place} {fs fs' : FileSystem} {as staged : List Artifact}
  {stop : Option StagingFault} {dir p : Path} {a : Artifact} {w w' : Workspace}

/-- The temporary files of some artifacts. -/
def besides (as : List Artifact) : List Staged := as.map fun a => .beside a.path

/-- Staging runs like this on the files of a workspace. -/
theorem exists_stages (overwrite : Bool) (hdir : ∀ a ∈ as, a.path.parent = dir) (w : Workspace) :
    ∃ staged stop w', w.run (stage overwrite as) = ((besides staged, stop), w') ∧ w'.here = w.here ∧
      Stages overwrite dir w.here w.files as staged stop w'.files := by
  induction as generalizing w with
  | nil => exact ⟨[], none, w, rfl, rfl, .nil⟩
  | cons a rest ih =>
    obtain ⟨hparent, hrest⟩ := List.forall_mem_cons.1 hdir
    rw [run_stage_cons, hparent]
    cases hkind : w.files.kind? w.here a.path with
    | error fault => exact ⟨[], _, w, rfl, rfl, .lost hkind⟩
    | ok kind =>
      dsimp only
      split
      · next hexists =>
        obtain ⟨hsome, hkeep⟩ := Bool.and_eq_true_iff.1 hexists
        obtain ⟨k, rfl⟩ := Option.isSome_iff_exists.1 hsome
        obtain ⟨staged, stop, w', hrun, hhere, hstages⟩ :=
          ih hrest { w with notices := w.notices ++ [.skipped a.path] }
        exact ⟨staged, stop, w', hrun, hhere, .skipped (by simpa using hkeep) ⟨k, hkind⟩ hstages⟩
      · next hfree =>
        have htries : Tries overwrite w.here w.files a := by
          refine ⟨kind, hkind, ?_⟩
          cases kind <;> simp_all
        split
        · next fault fs hmade => exact ⟨[], _, { w with files := fs }, rfl, rfl, .shut htries hmade⟩
        · next fs hmade =>
          split
          · next fault hwrote =>
            exact ⟨[a], _, { w with files := fs }, rfl, rfl, .unwritten htries hmade hwrote⟩
          · next fs₂ hwrote =>
            obtain ⟨staged, stop, w', hrun, hhere, hstages⟩ := ih hrest { w with files := fs₂ }
            refine ⟨a :: staged, stop, w', ?_, hhere, .staged htries hmade hwrote hstages⟩
            rw [hrun]
            rfl

/-! ### What staging keeps -/

theorem covers_of_made {made : Except FileFault Unit × FileSystem}
    (hstart : fs.node? (dir.start here) = some .directory) (hmade : fs.makeDirectories here dir = made) :
    Covers fs made.2 :=
  hmade ▸ .of_grows (makesWay_makeDirectories fs here dir hstart).grows

theorem opens_of_made (hstart : fs.node? (dir.start here) = some .directory)
    (hmade : fs.makeDirectories here dir = (.ok (), fs')) : fs'.Opens here dir := by
  have hway := makesWay_makeDirectories fs here dir hstart
  rw [hmade] at hway
  exact hway.opens rfl

theorem covers_of_write {content : ByteArray} (hwrite : fs.write here p content = .ok fs') :
    Covers fs fs' := by
  obtain ⟨-, -, hfile, rfl⟩ := write_eq_ok_iff.1 hwrite
  exact .of_put hfile

/-- What can be found and may not be overwritten is not tried. -/
theorem Tries.ne_of_finds (h : Tries overwrite here fs a) (hkeep : overwrite = false)
    (hfinds : fs.Finds here p) : p ≠ a.path := by
  obtain ⟨kind, hkind, hoverwrite | rfl⟩ := h
  · rw [hkeep] at hoverwrite
    cases hoverwrite
  · rintro rfl
    obtain ⟨k, hk⟩ := hfinds
    rw [hkind] at hk
    cases hk

namespace Stages

theorem sublist (h : Stages overwrite dir here fs as staged stop fs') : staged.Sublist as := by
  induction h with
  | nil => exact .refl _
  | skipped _ _ _ ih => exact ih.cons _
  | lost => exact List.nil_sublist _
  | shut => exact List.nil_sublist _
  | unwritten => exact (List.nil_sublist _).cons_cons _
  | staged _ _ _ _ ih => exact ih.cons_cons _

/-- Staging loses nothing. -/
theorem covers (h : Stages overwrite dir here fs as staged stop fs')
    (hstart : fs.node? (dir.start here) = some .directory) : Covers fs fs' := by
  induction h with
  | nil => exact .refl _
  | skipped _ _ _ ih => exact ih hstart
  | lost => exact .refl _
  | shut _ made => exact covers_of_made hstart made
  | unwritten _ made _ => exact covers_of_made hstart made
  | staged _ made wrote _ ih =>
    have hcovers := (covers_of_made hstart made).trans (covers_of_write wrote)
    exact hcovers.trans (ih (hcovers.directory _ hstart))

/-- What can be found and may not be overwritten is not staged. -/
theorem not_mem_of_finds (h : Stages overwrite dir here fs as staged stop fs')
    (hstart : fs.node? (dir.start here) = some .directory) (hkeep : overwrite = false)
    (hfinds : fs.Finds here p) : p ∉ staged.map (·.path) := by
  induction h with
  | nil => simp
  | skipped _ _ _ ih => exact ih hstart hfinds
  | lost => simp
  | shut => simp
  | unwritten tries => simpa using tries.ne_of_finds hkeep hfinds
  | staged tries made wrote _ ih =>
    have hcovers := (covers_of_made hstart made).trans (covers_of_write wrote)
    rw [List.map_cons, List.mem_cons, not_or]
    exact ⟨tries.ne_of_finds hkeep hfinds, ih (hcovers.directory _ hstart) (hcovers.finds hfinds)⟩

/-- If staging goes through, an artifact that is not staged can be found and may not be overwritten. -/
theorem staged_or_finds (h : Stages overwrite dir here fs as staged none fs')
    (hstart : fs.node? (dir.start here) = some .directory) :
    ∀ a ∈ as, a ∈ staged ∨ overwrite = false ∧ fs'.Finds here a.path := by
  generalize hstop : (none : Option StagingFault) = stop at h
  induction h with
  | nil => simp
  | skipped keep finds next ih =>
    exact List.forall_mem_cons.2 ⟨.inr ⟨keep, (next.covers hstart).finds finds⟩, ih hstart hstop⟩
  | lost => cases hstop
  | shut => cases hstop
  | unwritten => cases hstop
  | staged _ made wrote _ ih =>
    have hcovers := (covers_of_made hstart made).trans (covers_of_write wrote)
    have hrest := ih (hcovers.directory _ hstart) hstop
    exact List.forall_mem_cons.2
      ⟨.inl List.mem_cons_self, fun b hb => (hrest b hb).imp_left (List.mem_cons_of_mem _)⟩

/-- Once something is staged the output directory is open. -/
theorem opens (h : Stages overwrite dir here fs as staged stop fs')
    (hstart : fs.node? (dir.start here) = some .directory) (hstaged : staged ≠ []) :
    fs'.Opens here dir := by
  induction h with
  | nil => exact absurd rfl hstaged
  | skipped _ _ _ ih => exact ih hstart hstaged
  | lost => exact absurd rfl hstaged
  | shut => exact absurd rfl hstaged
  | unwritten _ made _ => exact opens_of_made hstart made
  | staged _ made wrote next =>
    have hcovers := (covers_of_made hstart made).trans (covers_of_write wrote)
    exact ((covers_of_write wrote).trans (next.covers (hcovers.directory _ hstart))).opens
      (opens_of_made hstart made)

/-- As long as nothing is staged only directories are made. -/
theorem grows (h : Stages overwrite dir here fs as staged stop fs')
    (hstart : fs.node? (dir.start here) = some .directory) (hstaged : staged = []) :
    Grows (inside dir here) fs fs' := by
  induction h with
  | nil => exact .refl _
  | skipped _ _ _ ih => exact ih hstart hstaged
  | lost => exact .refl _
  | @shut fs _ _ _ _ _ made =>
    have hway := makesWay_makeDirectories fs here dir hstart
    rw [made] at hway
    exact hway.grows
  | unwritten => cases hstaged
  | staged => cases hstaged

/-- Behind each staged artifact the output directory is open, and all temporary files could be named if
staging has gone through. -/
theorem ready (h : Stages overwrite dir here fs as staged none fs')
    (hstart : fs.node? (dir.start here) = some .directory) :
    ∀ a ∈ staged, fs'.Opens here dir ∧ (temporaryPath a).IsFit := by
  generalize hstop : (none : Option StagingFault) = stop at h
  induction h with
  | nil => simp
  | skipped _ _ _ ih => exact ih hstart hstop
  | lost => cases hstop
  | shut => cases hstop
  | unwritten => cases hstop
  | staged _ made wrote next ih =>
    have hcovers := (covers_of_made hstart made).trans (covers_of_write wrote)
    have hstart' := hcovers.directory _ hstart
    have hopens := ((covers_of_write wrote).trans (next.covers hstart')).opens (opens_of_made hstart made)
    exact List.forall_mem_cons.2 ⟨⟨hopens, (write_eq_ok_iff.1 wrote).1⟩, ih hstart' hstop⟩

end Stages

/-! ### Commits that answer -/

variable {c : Config} {result : Except BuildError (List Path)}

/-- How a commit that is not broken off has run: everything staged was moved, or staging stopped and
everything staged was taken back. -/
inductive Committed (c : Config) (w : Workspace) (as : List Artifact) :
    Except BuildError (List Path) → Workspace → Prop
  | published {staged : List Artifact} {written : List Path} {w₁ w' : Workspace}
      (staging : w.run (stage c.overwrite.isTrue as) = ((besides staged, none), w₁))
      (stages : Stages c.overwrite.isTrue c.output w.here w.files as staged none w₁.files)
      (here : w₁.here = w.here) (moved : w₁.run (publish (besides staged)) = (.ok written, w')) :
      Committed c w as (.ok written) w'
  | withdrawn {staged : List Artifact} {path : Path} {fault : FileFault} {w₁ w' : Workspace}
      (staging : w.run (stage c.overwrite.isTrue as) = ((besides staged, some (path, fault)), w₁))
      (stages : Stages c.overwrite.isTrue c.output w.here w.files as staged (some (path, fault)) w₁.files)
      (here : w₁.here = w.here) (named : fault ≠ .nameless)
      (discarded : w₁.run (discard (besides staged)) = (.ok (), w')) :
      Committed c w as (.error (.unwritable path fault)) w'

theorem committed_of_commit (hdir : ∀ a ∈ as, a.path.parent = c.output)
    (h : w.run (commit c as) = (.ok result, w')) : Committed c w as result w' := by
  obtain ⟨staged, stop, w₁, hrun, hhere, hstages⟩ := exists_stages c.overwrite.isTrue hdir w
  cases stop with
  | none =>
    rw [run_commit_of_staged hrun] at h
    rcases hmoved : w₁.run (publish (besides staged)) with ⟨fault | written, w₂⟩
    · rw [hmoved] at h
      cases h
    · rw [hmoved] at h
      cases h
      exact .published hrun hstages hhere hmoved
  | some stop =>
    obtain ⟨path, fault⟩ := stop
    by_cases hfault : fault = .nameless
    · subst hfault
      rw [run_commit_of_nameless hrun] at h
      cases h
    · rw [run_commit_of_stopped hrun hfault] at h
      rcases hdiscarded : w₁.run (discard (besides staged)) with ⟨other | done, w₂⟩
      · rw [hdiscarded] at h
        cases h
      · rw [hdiscarded] at h
        cases h
        exact .withdrawn hrun hstages hhere hfault hdiscarded

/-- Moving answers the targets in their order. -/
theorem paths_of_publish {written : List Path} (h : w.run (publish (besides staged)) = (.ok written, w')) :
    written = staged.map (·.path) := by
  induction staged generalizing w written w' with
  | nil =>
    rw [besides, List.map_nil, publish, Workspace.run_pure] at h
    cases h
    rfl
  | cons a rest ih =>
    rw [besides, List.map_cons, run_publish_cons] at h
    cases hrename : w.files.rename w.here (temporaryPath a) a.path with
    | error fault =>
      rw [hrename] at h
      cases h
    | ok fs =>
      rw [hrename] at h
      dsimp only at h
      rcases hrest : Workspace.run { w with files := fs } (publish (besides rest)) with ⟨fault | later, w₂⟩
      · rw [besides] at hrest
        rw [hrest] at h
        cases h
      · have hlater := ih hrest
        rw [besides] at hrest
        rw [hrest] at h
        cases h
        rw [hlater, List.map_cons]

end Monomorph.Build
