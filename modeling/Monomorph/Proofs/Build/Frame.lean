import Monomorph.Proofs.Build.Changes
import Monomorph.Proofs.Build.Staging
import Monomorph.Proofs.Build.Turn

/-!
The frame of a build. Whatever is changed is accounted for: a directory on the way to the outputs, an
artifact that was written, or a temporary file that is gone again. What was written stays as it was
written, because no other source of the build has its path; and what may not be overwritten is kept if it
can be found.
-/

namespace Monomorph

open FileSystem

/-! ### Sources -/

namespace Path

/-- No part of the path holds a slash. -/
def IsProper (p : Path) : Prop := ∀ part ∈ p.parts, '/' ∉ part.toList

instance (p : Path) : Decidable p.IsProper := List.decidableBAll _ _

theorem IsProper.slash_not_mem_stem {p : Path} (h : p.IsProper) : '/' ∉ p.stem.toList := by
  have hname : '/' ∉ p.name.toList := by
    unfold name
    cases hlast : p.parts.getLast? with
    | none => simp
    | some last => exact h last (List.mem_of_getLast? hlast)
  unfold stem
  dsimp only
  split
  · rw [String.toList_ofList]
    exact fun hmem => hname (List.mem_of_mem_take hmem)
  · exact hname

end Path

namespace Build

variable {c : Config} {w w' : Workspace} {source : Path} {p : Product} {a b : Artifact}
  {artifacts : List Artifact} {here q : Place} {dir : Path} {before middle after : FileSystem}

/-- The artifacts of a source go right into the output directory, each to a path of its own. -/
theorem isRendered_of_prepare (hproper : source.IsProper)
    (h : (w.run (prepare c source)).1 = .ok (.ok p)) :
    (∀ a ∈ p.artifacts, a.IsRendered c) ∧ (p.artifacts.map (·.path)).Nodup := by
  obtain ⟨text, s, -, hscan, hexpanded, hall⟩ := exists_scan_of_prepare h
  obtain ⟨arguments, hdeclaration⟩ := exists_arguments_of_expanded hexpanded
  have hpath : s.declaration.path = some source := by
    obtain ⟨_, _, d, start, _, e, moves, -, -, -, -, hdecl⟩ := Scan.exists_of_scan_ok hscan
    rw [hdecl]
    rfl
  have hstem : p.function.declaration.stem = source.stem := by
    rw [hdeclaration, Declaration.stem, hpath]
  exact ⟨fun a ha => .ofFunction hall ha (hstem ▸ hproper.slash_not_mem_stem),
    Artifact.nodup_paths_of_all hall⟩

theorem siblings_pair (ha : a.IsRendered c) (hb : b.IsRendered c) (hne : a.path ≠ b.path) :
    Siblings c.output [a, b] :=
  siblings_of_rendered (List.forall_mem_cons.2 ⟨ha, List.forall_mem_singleton.2 hb⟩) (by simpa using hne)

theorem siblings_singleton (ha : a.IsRendered c) : Siblings c.output [a] :=
  siblings_of_rendered (List.forall_mem_singleton.2 ha) (by simp)

/-- Rendered files with the same place have the same path. -/
theorem path_eq_of_targetPlace (ha : a.IsRendered c) (hb : b.IsRendered c)
    (hplace : targetPlace here a = targetPlace here b) : a.path = b.path := by
  by_contra hne
  have hsame := (siblings_pair ha hb hne).eq_of_targetPlace List.mem_cons_self
    (List.mem_cons_of_mem _ List.mem_cons_self) hplace
  exact hne (congrArg Artifact.path hsame)

/-- No rendered file goes to the place of a temporary one. -/
theorem targetPlace_ne_temporaryPlace (ha : a.IsRendered c) (hb : b.IsRendered c) :
    targetPlace here a ≠ temporaryPlace here b := by
  by_cases hpath : a.path = b.path
  · have hsame : targetPlace here a = targetPlace here b := by rw [targetPlace, hpath, targetPlace]
    rw [hsame]
    exact (siblings_singleton hb).targetPlace_ne_temporaryPlace List.mem_cons_self List.mem_cons_self
  · exact (siblings_pair ha hb hpath).targetPlace_ne_temporaryPlace List.mem_cons_self
      (List.mem_cons_of_mem _ List.mem_cons_self)

/-! ### Places -/

/-- What stands at a place is accounted for: it is what stood there, or a directory on the way; or it is an
artifact that was written; or it was a temporary file, and is gone. -/
inductive Accounted (dir : Path) (here : Place) (before after : FileSystem)
    (written attempted : Artifact → Prop) (q : Place) : Prop
  | stays (h : Stays (inside dir here) before after q)
  | target {a : Artifact} (ha : written a) (hq : q = targetPlace here a)
      (h : after.node? q = some (.file (Text.Utf8.encode a.content)))
  | temporary {a : Artifact} (ha : attempted a) (hq : q = temporaryPlace here a)
      (hopens : after.Opens here dir) (h : after.node? q = none)

namespace Accounted

variable {written attempted written' attempted' : Artifact → Prop}

theorem mono (h : Accounted dir here before after written attempted q)
    (hwritten : ∀ a, written a → written' a) (hattempted : ∀ a, attempted a → attempted' a) :
    Accounted dir here before after written' attempted' q := by
  cases h with
  | stays h => exact .stays h
  | target ha hq h => exact .target (hwritten _ ha) hq h
  | temporary ha hq hopens h => exact .temporary (hattempted _ ha) hq hopens h

theorem trans (h : Accounted dir here before middle written attempted q)
    (h' : Accounted dir here middle after written attempted q) (hcovers : ∀ r, middle.node? r =
      some .directory → after.node? r = some .directory) :
    Accounted dir here before after written attempted q := by
  cases h' with
  | target ha hq h' => exact .target ha hq h'
  | temporary ha hq hopens h' => exact .temporary ha hq hopens h'
  | stays h' =>
    cases h with
    | stays h => exact .stays (h.trans h')
    | target ha hq h =>
      rcases h' with hsame | ⟨-, hnone, -⟩
      · exact .target ha hq (hsame.trans h)
      · rw [h] at hnone
        cases hnone
    | temporary ha hq hopens h =>
      rcases h' with hsame | ⟨hmem, -, -⟩
      · exact .temporary ha hq (fun r hr => hcovers r (hopens r hr)) (hsame.trans h)
      · rw [hopens q hmem] at h
        cases h

/-- A file never becomes a directory. -/
theorem node?_ne_directory (h : Accounted dir here before after written attempted q) {content : ByteArray}
    (hfile : before.node? q = some (.file content)) : after.node? q ≠ some .directory := by
  cases h with
  | stays h =>
    rcases h with hsame | ⟨-, hnone, -⟩
    · rw [hsame, hfile]
      simp
    · rw [hfile] at hnone
      cases hnone
  | target _ _ h =>
    rw [h]
    simp
  | temporary _ _ _ h =>
    rw [h]
    simp

end Accounted

/-! ### Commits -/

section Commit

variable {result : Except BuildError (List Path)} {written : List Path}

theorem start_of_here (hhere : w.files.node? w.here = some .directory) (dir : Path) :
    w.files.node? (dir.start w.here) = some .directory := by
  unfold Path.start
  split
  · exact node?_nil
  · exact hhere

/-- Either the output directory is open after a commit, or all that the commit has done is to make
directories, and it has written nothing. -/
theorem Committed.opens_or_grows (h : Committed c w artifacts result w')
    (hs : Siblings c.output artifacts) (hrendered : ∀ a ∈ artifacts, a.IsRendered c)
    (htree : IsTree w.files) (hhere : w.files.node? w.here = some .directory) :
    w'.files.Opens w.here c.output ∨ Grows (inside c.output w.here) w.files w'.files ∧
      ∀ written, result = .ok written → written = [] := by
  have hstart := start_of_here hhere c.output
  have hplaces : ∀ {staged : List Artifact}, staged.Sublist artifacts →
      ∀ s ∈ besides staged, Places c.output s := by
    intro staged hsub s hs'
    obtain ⟨a, ha, rfl⟩ := List.mem_map.1 hs'
    exact places_of_rendered hs hrendered (hsub.subset ha)
  have htree' := (onlyChanges_stage c.overwrite.isTrue (fun _ ha => places_of_rendered hs hrendered ha) w htree).1.isTree
    htree
  cases h with
  | @published staged _ w₁ _ staging stages here moved =>
    by_cases hstaged : staged = []
    · subst hstaged
      cases moved
      exact .inr ⟨stages.grows hstart rfl, fun _ h => (Except.ok.inj h).symm⟩
    · rw [staging] at htree'
      have hreached := (onlyChanges_publish (hplaces stages.sublist) w₁ htree').1
      rw [moved] at hreached
      exact .inl fun q hq => hreached.node?_of_directory (stages.opens hstart hstaged q hq)
  | @withdrawn staged _ _ w₁ _ staging stages here _ discarded =>
    by_cases hstaged : staged = []
    · subst hstaged
      cases discarded
      exact .inr ⟨stages.grows hstart rfl, fun _ h => by cases h⟩
    · rw [staging] at htree'
      have hreached := (onlyChanges_discard (hplaces stages.sublist) w₁ htree').1
      rw [discarded] at hreached
      exact .inl fun q hq => hreached.node?_of_directory (stages.opens hstart hstaged q hq)

/-- What a commit does is accounted for. -/
theorem accounted_of_commit (hrendered : ∀ a ∈ artifacts, a.IsRendered c)
    (hpaths : (artifacts.map (·.path)).Nodup) (htree : IsTree w.files)
    (hhere : w.files.node? w.here = some .directory) (h : w.run (commit c artifacts) = (.ok result, w'))
    (q : Place) : Accounted c.output w.here w.files w'.files
      (fun a => a ∈ artifacts ∧ ∃ written, result = .ok written ∧ a.path ∈ written) (· ∈ artifacts) q := by
  have hs := siblings_of_rendered hrendered hpaths
  have hcommitted := committed_of_commit (fun a ha => hs.parent ha) h
  rcases hcommitted.opens_or_grows hs hrendered htree hhere with hopens | ⟨hgrows, -⟩
  · obtain ⟨answer, w₁, status, hrun, -, hleaves, hend⟩ := exists_commitEnd hrendered hpaths hhere
    rw [h] at hrun
    cases hrun
    -- an artifact that is not published has left its target alone, and its temporary file is gone if it had one
    by_cases hplace : ∃ a ∈ artifacts, q = targetPlace w.here a ∨ q = temporaryPlace w.here a
    · obtain ⟨a, ha, hq⟩ := hplace
      have hholds := hleaves.each a ha
      cases hend with
      | written hall =>
        rcases hall a ha with hstatus | ⟨hstatus, -⟩
        · rw [hstatus] at hholds
          rcases hq with rfl | rfl
          · refine .target ⟨ha, _, rfl, ?_⟩ rfl hholds.1
            exact List.mem_map_of_mem (List.mem_filter.2 ⟨ha, by simpa using hstatus⟩)
          · exact .temporary ha rfl hopens hholds.2
        · rw [hstatus] at hholds
          rcases hq with rfl | rfl
          · exact .stays hholds.1
          · exact .stays hholds.2
      | unwritable _ _ hall =>
        rcases hall a ha with hstatus | hstatus
        · rw [hstatus] at hholds
          rcases hq with rfl | rfl
          · exact .stays hholds.1
          · exact .stays hholds.2
        · rw [hstatus] at hholds
          rcases hq with rfl | rfl
          · exact .stays hholds.1
          · exact .temporary ha rfl hopens hholds.2
    · refine .stays (hleaves.others q fun a ha => ⟨fun heq => hplace ⟨a, ha, .inl heq⟩, fun heq => ?_⟩)
      exact hplace ⟨a, ha, .inr heq⟩
  · exact .stays (hgrows q)

/-- What a commit says it has written can be read. -/
theorem read_of_commit (hrendered : ∀ a ∈ artifacts, a.IsRendered c)
    (hpaths : (artifacts.map (·.path)).Nodup) (htree : IsTree w.files)
    (hhere : w.files.node? w.here = some .directory) (h : w.run (commit c artifacts) = (.ok (.ok written), w'))
    {path : Path} (hpath : path ∈ written) :
    ∃ a ∈ artifacts, a.path = path ∧ w'.files.read w.here path = .ok (Text.Utf8.encode a.content) := by
  have hs := siblings_of_rendered hrendered hpaths
  have hcommitted := committed_of_commit (fun a ha => hs.parent ha) h
  obtain ⟨b, hb, hpath', hfit⟩ : ∃ b ∈ artifacts, b.path = path ∧ (temporaryPath b).IsFit := by
    cases hcommitted with
    | published _ stages _ moved =>
      rw [paths_of_publish moved] at hpath
      obtain ⟨b, hb, rfl⟩ := List.mem_map.1 hpath
      exact ⟨b, stages.sublist.subset hb, rfl, (stages.ready (start_of_here hhere c.output) b hb).2⟩
  have hopens : w'.files.Opens w.here c.output := by
    rcases hcommitted.opens_or_grows hs hrendered htree hhere with hopens | ⟨-, hnothing⟩
    · exact hopens
    · rw [hnothing written rfl] at hpath
      cases hpath
  obtain ⟨answer, w₁, status, hrun, -, hleaves, hend⟩ := exists_commitEnd hrendered hpaths hhere
  rw [h] at hrun
  cases hrun
  cases hend with
  | written hall =>
    obtain ⟨a, hmem, rfl⟩ := List.mem_map.1 hpath
    obtain ⟨ha, hstatus⟩ := List.mem_filter.1 hmem
    have hholds := hleaves.each a ha
    rw [of_decide_eq_true hstatus] at hholds
    have hreaches := hopens.reaches_child a.path.name
    rw [← hs.path a ha] at hreaches
    refine ⟨a, ha, rfl, read_eq_ok_iff.2 ⟨?_, hreaches, hholds.1⟩⟩
    rw [← hpath']
    exact hs.isFit hb hfit

/-- What can be found and may not be overwritten is not written. -/
theorem not_mem_written_of_finds (hdir : ∀ a ∈ artifacts, a.path.parent = c.output)
    (hhere : w.files.node? w.here = some .directory) (h : w.run (commit c artifacts) = (.ok (.ok written), w'))
    (hkeep : c.overwrite.isTrue = false) {path : Path} (hfinds : w.files.Finds w.here path) :
    path ∉ written := by
  cases committed_of_commit hdir h with
  | published _ stages _ moved =>
    rw [paths_of_publish moved]
    exact stages.not_mem_of_finds (start_of_here hhere c.output) hkeep hfinds

end Commit

/-! ### Frames -/

/-- What lies between two states of the files in a build, given which artifacts were written, and which
were to be written at all. -/
structure Frame (c : Config) (here : Place) (before after : FileSystem) (written attempted : Artifact → Prop) :
    Prop where
  reached : Reached IsOutputName before after
  accounted : ∀ q, Accounted c.output here before after written attempted q
  rendered : ∀ a, written a ∨ attempted a → a.IsRendered c
  reads : ∀ a, written a → after.read here a.path = .ok (Text.Utf8.encode a.content)
  kept : c.overwrite.isTrue = false → ∀ a : Artifact, a.IsRendered c → before.Finds here a.path →
    ∀ b, written b → b.path ≠ a.path

namespace Frame

variable {written attempted written₁ attempted₁ written₂ attempted₂ : Artifact → Prop}

theorem refl (c : Config) (here : Place) (fs : FileSystem) :
    Frame c here fs fs (fun _ => False) (fun _ => False) :=
  ⟨.refl, fun _ => .stays (.inl rfl), fun _ h => by simp at h, fun _ h => h.elim, fun _ _ _ _ _ h => h.elim⟩

theorem congr (h : Frame c here before after written attempted) (hwritten : ∀ a, written₁ a ↔ written a)
    (hattempted : ∀ a, attempted₁ a ↔ attempted a) : Frame c here before after written₁ attempted₁ := by
  obtain rfl : written₁ = written := funext fun a => propext (hwritten a)
  obtain rfl : attempted₁ = attempted := funext fun a => propext (hattempted a)
  exact h

/-- More may have been attempted. -/
theorem attempt (h : Frame c here before after written attempted)
    (hmore : ∀ a, attempted a → attempted₁ a) (hrendered : ∀ a, attempted₁ a → a.IsRendered c) :
    Frame c here before after written attempted₁ :=
  ⟨h.reached, fun q => (h.accounted q).mono (fun _ => id) hmore,
    fun a ha => ha.elim (fun ha => h.rendered a (.inl ha)) (hrendered a), h.reads, h.kept⟩

/-- What is at the place of a rendered file is not touched unless it is written. -/
theorem stays_of_not_written (h : Frame c here before after written attempted) (ha : a.IsRendered c)
    (hother : ∀ b, written b → b.path ≠ a.path) :
    Stays (inside c.output here) before after (targetPlace here a) := by
  cases h.accounted (targetPlace here a) with
  | stays h => exact h
  | @target b hb hq =>
    exact absurd (path_eq_of_targetPlace (h.rendered b (.inl hb)) ha hq.symm) (hother b hb)
  | @temporary b hb hq => exact absurd hq (targetPlace_ne_temporaryPlace ha (h.rendered b (.inr hb)))

/-- Where something stood at the place of a rendered file something stands afterwards. -/
theorem node?_targetPlace_ne_none (h : Frame c here before after written attempted) (ha : a.IsRendered c)
    (hnode : before.node? (targetPlace here a) ≠ none) : after.node? (targetPlace here a) ≠ none := by
  cases h.accounted (targetPlace here a) with
  | stays h =>
    rcases h with hsame | ⟨-, hnone, -⟩
    · rwa [hsame]
    · exact absurd hnone hnode
  | target _ _ h => simp [h]
  | @temporary b hb hq => exact absurd hq (targetPlace_ne_temporaryPlace ha (h.rendered b (.inr hb)))

/-- The current directory is still there. -/
theorem directory (h : Frame c w.here w.files w'.files written attempted) (hhere : w'.here = w.here)
    (hdir : w.files.node? w.here = some .directory) : w'.files.node? w'.here = some .directory := by
  rw [hhere]
  exact h.reached.node?_of_directory hdir

/-- One frame after the other, if nothing is written twice. -/
theorem append (h₁ : Frame c here before middle written₁ attempted₁)
    (h₂ : Frame c here middle after written₂ attempted₂)
    (hdisjoint : ∀ a b, written₁ a → written₂ b → b.path ≠ a.path) :
    Frame c here before after (fun a => written₁ a ∨ written₂ a) (fun a => attempted₁ a ∨ attempted₂ a) where
  reached := h₁.reached.trans h₂.reached
  accounted q := ((h₁.accounted q).mono (fun _ => .inl) (fun _ => .inl)).trans
    ((h₂.accounted q).mono (fun _ => .inr) (fun _ => .inr)) fun _ => h₂.reached.node?_of_directory
  rendered a ha := by
    rcases ha with (ha | ha) | (ha | ha)
    · exact h₁.rendered a (.inl ha)
    · exact h₂.rendered a (.inl ha)
    · exact h₁.rendered a (.inr ha)
    · exact h₂.rendered a (.inr ha)
  reads a ha := by
    rcases ha with ha | ha
    · obtain ⟨hfit, hreaches, hfile⟩ := read_eq_ok_iff.1 (h₁.reads a ha)
      refine read_eq_ok_iff.2 ⟨hfit, fun q hq => h₂.reached.node?_of_directory (hreaches q hq), ?_⟩
      rcases h₂.stays_of_not_written (h₁.rendered a (.inl ha)) (hdisjoint a · ha) with hsame | ⟨-, hnone, -⟩
      · exact hsame.trans hfile
      · rw [show middle.node? (targetPlace here a) = _ from hfile] at hnone
        cases hnone
    · exact h₂.reads a ha
  kept hkeep a ha hfinds b hb := by
    rcases hb with hb | hb
    · exact h₁.kept hkeep a ha hfinds b hb
    · obtain ⟨hfit, hreaches, hnode⟩ := finds_iff.1 hfinds
      refine h₂.kept hkeep a ha (finds_iff.2 ⟨hfit, fun q hq => ?_, ?_⟩) b hb
      · exact h₁.reached.node?_of_directory (hreaches q hq)
      · exact h₁.node?_targetPlace_ne_none ha hnode

/-- A path through a file leads to nothing that is written. -/
theorem ne_of_file (h : Frame c here before after written attempted) {path : Path} {content : ByteArray}
    (hq : q ∈ path.above here) (hfile : before.node? q = some (.file content)) :
    ∀ b, written b → b.path ≠ path := by
  rintro b hb rfl
  obtain ⟨-, hreaches, -⟩ := read_eq_ok_iff.1 (h.reads b hb)
  exact (h.accounted q).node?_ne_directory hfile (hreaches q hq)

/-- What may not be overwritten is kept, if its path finds it or does not lead up out of a directory that is
missing. -/
theorem node?_eq (h : Frame c here before after written attempted) (htree : IsTree before)
    (hkeep : c.overwrite.isTrue = false) (ha : a.IsRendered c)
    (hnode : before.node? (targetPlace here a) ≠ none)
    (hfound : before.Finds here a.path ∨ ¬ Climbs before (c.output.start here) c.output.parts) :
    after.node? (targetPlace here a) = before.node? (targetPlace here a) := by
  suffices hother : ∀ b, written b → b.path ≠ a.path by
    rcases h.stays_of_not_written ha hother with hsame | ⟨-, hnone, -⟩
    · exact hsame
    · exact absurd hnone hnode
  have hpath : a.path = c.output.child a.path.name := (siblings_singleton ha).path a List.mem_cons_self
  rcases hfound with hfinds | hclimbs
  · exact h.kept hkeep a ha hfinds
  -- the directory of the artifact is there, since something is in it
  have hdir : before.node? (c.output.placeFrom here) = some .directory := by
    rw [(siblings_singleton ha).targetPlace_eq List.mem_cons_self] at hnode
    exact htree _ _ hnode
  rcases htree.through_of_node? hclimbs (by rw [← Path.placeFrom, hdir]; simp) with hall | ⟨q, hq, content, hfile⟩
  · intro b hb heq
    obtain ⟨hfit, -, -⟩ := read_eq_ok_iff.1 (h.reads b hb)
    refine h.kept hkeep a ha (finds_iff.2 ⟨heq ▸ hfit, ?_, hnode⟩) b hb heq
    rw [hpath, Reaches, above_child]
    exact List.forall_mem_append.2 ⟨hall, List.forall_mem_singleton.2 hdir⟩
  · refine h.ne_of_file (q := q) ?_ hfile
    rw [hpath, above_child]
    exact List.mem_append_left _ hq

end Frame

/-- A commit keeps its frame. -/
theorem frame_of_commit {result : Except BuildError (List Path)} (hrendered : ∀ a ∈ artifacts, a.IsRendered c)
    (hpaths : (artifacts.map (·.path)).Nodup) (htree : IsTree w.files)
    (hhere : w.files.node? w.here = some .directory) (h : w.run (commit c artifacts) = (.ok result, w')) :
    w'.here = w.here ∧ Frame c w.here w.files w'.files
      (fun a => a ∈ artifacts ∧ ∃ written, result = .ok written ∧ a.path ∈ written) (· ∈ artifacts) := by
  have hs := siblings_of_rendered hrendered hpaths
  obtain ⟨hreached, hhere'⟩ := onlyChanges_commit hs hrendered w htree
  rw [h] at hreached hhere'
  refine ⟨hhere', hreached, accounted_of_commit hrendered hpaths htree hhere h, ?_, ?_, ?_⟩
  · rintro a (⟨ha, -⟩ | ha) <;> exact hrendered a ha
  · rintro a ⟨ha, written, rfl, hpath⟩
    obtain ⟨b, hb, hsame, hread⟩ := read_of_commit hrendered hpaths htree hhere h hpath
    obtain rfl : b = a := List.inj_on_of_nodup_map hpaths hb ha hsame
    exact hread
  · rintro hkeep a ha hfinds b ⟨-, written, rfl, hpath⟩ heq
    exact not_mem_written_of_finds (fun a ha => hs.parent ha) hhere h hkeep hfinds (heq ▸ hpath)

end Build

end Monomorph
