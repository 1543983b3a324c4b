import Monomorph.Proofs.Build.Commit
import Monomorph.Proofs.FileSystem.Tree

/-!
Which files a build may touch. A commit makes directories, and writes and removes files under the names
of artifacts and of their temporary files only, whatever it answers.
-/

namespace Monomorph

open FileSystem

variable {α β : Type} {named : String → Prop}

/-- Whatever it answers, the program changes a tree of files under certain names only. -/
def OnlyChanges (named : String → Prop) (p : StateM Workspace α) : Prop :=
  ∀ w : Workspace, IsTree w.files →
    Reached named w.files (w.run p).2.files ∧ (w.run p).2.here = w.here

theorem OnlyReads.onlyChanges {p : StateM Workspace α} (h : OnlyReads p) : OnlyChanges named p :=
  fun w _ => ⟨by rw [(h.keepsFiles w).files], (h.keepsFiles w).here⟩

namespace OnlyChanges

theorem pure (a : α) : OnlyChanges named (pure a : StateM Workspace α) := (OnlyReads.pure a).onlyChanges

theorem bind {p : StateM Workspace α} {q : α → StateM Workspace β} (hp : OnlyChanges named p)
    (hq : ∀ a, OnlyChanges named (q a)) : OnlyChanges named (p >>= q) := by
  intro w htree
  obtain ⟨hreached, hhere⟩ := hp w htree
  obtain ⟨hreached', hhere'⟩ := hq (w.run p).1 (w.run p).2 (hreached.isTree htree)
  rw [Workspace.run_bind]
  exact ⟨hreached.trans hreached', hhere'.trans hhere⟩

/-- An operation on the files that may fail, and changes nothing then. -/
theorem after (change : FileSystem → Place → Except FileFault FileSystem)
    (h : ∀ fs here fs', IsTree fs → change fs here = .ok fs' → Reached named fs fs') :
    OnlyChanges named fun w => w.after (change w.files w.here) := by
  intro w htree
  simp only [Workspace.run]
  cases hchange : change w.files w.here with
  | error fault => exact ⟨.refl, rfl⟩
  | ok files => exact ⟨h _ _ _ htree hchange, rfl⟩

theorem makeDirectories (path : Path) : OnlyChanges named (Files.makeDirectories path) := fun w htree => by
  rw [Workspace.run_makeDirectories]
  exact ⟨reached_makeDirectories htree w.here path, rfl⟩

variable {dir : Path} {name name' : String}

theorem write (hup : name ≠ "..") (hnamed : named name) (content : ByteArray) :
    OnlyChanges named (Files.write (dir.child name) content) :=
  after (fun fs here => fs.write here (dir.child name) content) fun _ _ _ _ h =>
    .single (change_of_write hup hnamed h)

theorem remove (hup : name ≠ "..") (hnamed : named name) :
    OnlyChanges named (Files.remove (dir.child name)) :=
  after (fun fs here => fs.remove here (dir.child name)) fun _ _ _ _ h =>
    .single (change_of_remove hup hnamed h)

theorem rename (hup : name ≠ "..") (hup' : name' ≠ "..") (hnamed : named name) (hnamed' : named name') :
    OnlyChanges named (Files.rename (dir.child name) (dir.child name')) :=
  after (fun fs here => fs.rename here (dir.child name) (dir.child name')) fun _ _ _ _ h =>
    reached_of_rename hup hup' hnamed hnamed' h

end OnlyChanges

namespace Build

/-- The names of artifacts, and of the temporary files beside them. -/
def IsOutputName (name : String) : Prop :=
  ∃ e ∈ Artifact.endings, e.toList <:+ name.toList ∨ (e ++ temporaryEnding).toList <:+ name.toList

variable {c : Config} {a : Artifact} {artifacts : List Artifact}

theorem isOutputName_of_rendered (h : a.IsRendered c) :
    IsOutputName a.path.name ∧ IsOutputName (a.path.name ++ temporaryEnding) := by
  obtain ⟨s, e, he, hpath⟩ := h.exists_path
  rw [hpath, Path.name_child]
  constructor
  · exact ⟨e, he, .inl (by rw [String.toList_append]; exact List.suffix_append _ _)⟩
  · refine ⟨e, he, .inr ?_⟩
    rw [String.toList_append, String.toList_append, String.toList_append, List.append_assoc]
    exact List.suffix_append _ _

/-- What is staged for an artifact lies in the output directory, under a name of an output. -/
structure Places (dir : Path) (s : Staged) : Prop where
  temporary : ∃ name, s.temporary = dir.child name ∧ name ≠ ".." ∧ IsOutputName name
  target : ∃ name, s.target = dir.child name ∧ name ≠ ".." ∧ IsOutputName name

theorem places_of_rendered (hs : Siblings c.output artifacts) (h : ∀ a ∈ artifacts, a.IsRendered c)
    (ha : a ∈ artifacts) : Places c.output (.beside a.path) where
  temporary := ⟨_, hs.temporaryPath_eq ha, append_temporaryEnding_ne _, (isOutputName_of_rendered (h a ha)).2⟩
  target := ⟨_, hs.path a ha, hs.proper a ha, (isOutputName_of_rendered (h a ha)).1⟩

theorem onlyChanges_stage (overwrite : Bool) {dir : Path}
    (h : ∀ a ∈ artifacts, Places dir (.beside a.path)) :
    OnlyChanges IsOutputName (stage overwrite artifacts) := by
  induction artifacts with
  | nil => exact .pure _
  | cons a rest ih =>
    obtain ⟨hplaces, hrest⟩ := List.forall_mem_cons.1 h
    refine .bind (OnlyReads.kind? a.path).onlyChanges fun kind => ?_
    split
    · exact .pure _
    · split
      · exact .bind (OnlyReads.note _).onlyChanges fun _ => ih hrest
      · refine .bind (.makeDirectories _) fun made => ?_
        split
        · exact .pure _
        · obtain ⟨name, hname, hup, hnamed⟩ := hplaces.temporary
          dsimp only
          rw [hname]
          refine .bind (.write hup hnamed _) fun wrote => ?_
          split
          · exact .pure _
          · exact .bind (ih hrest) fun _ => .pure _

/-- Staging answers temporary files of the artifacts. -/
theorem mem_of_stage (overwrite : Bool) (w : Workspace) :
    ∀ s ∈ (w.run (stage overwrite artifacts)).1.1, ∃ a ∈ artifacts, s = .beside a.path := by
  induction artifacts generalizing w with
  | nil => simp [stage, Workspace.run_pure]
  | cons a rest ih =>
    rw [run_stage_cons]
    split
    · simp
    · split
      · exact fun s hs => (ih _ s hs).imp fun b hb => ⟨List.mem_cons_of_mem _ hb.1, hb.2⟩
      · split
        · simp
        · split
          · simp
          · refine List.forall_mem_cons.2 ⟨⟨a, List.mem_cons_self, rfl⟩, fun s hs => ?_⟩
            exact (ih _ s hs).imp fun b hb => ⟨List.mem_cons_of_mem _ hb.1, hb.2⟩

theorem onlyChanges_discard {dir : Path} {staged : List Staged} (h : ∀ s ∈ staged, Places dir s) :
    OnlyChanges IsOutputName (discard staged) := by
  induction staged with
  | nil => exact .pure _
  | cons s rest ih =>
    obtain ⟨hplaces, hrest⟩ := List.forall_mem_cons.1 h
    obtain ⟨name, hname, hup, hnamed⟩ := hplaces.temporary
    rw [discard, hname]
    refine .bind (.remove hup hnamed) fun removed => ?_
    split
    · exact ih hrest
    · exact ih hrest
    · exact .pure _

theorem onlyChanges_publish {dir : Path} {staged : List Staged} (h : ∀ s ∈ staged, Places dir s) :
    OnlyChanges IsOutputName (publish staged) := by
  induction staged with
  | nil => exact .pure _
  | cons s rest ih =>
    obtain ⟨hplaces, hrest⟩ := List.forall_mem_cons.1 h
    obtain ⟨name, hname, hup, hnamed⟩ := hplaces.temporary
    obtain ⟨name', hname', hup', hnamed'⟩ := hplaces.target
    rw [publish, hname, hname']
    refine .bind (.rename hup hup' hnamed hnamed') fun moved => ?_
    split
    · exact .pure _
    · exact .bind (ih hrest) fun _ => .pure _

/-- A commit touches nothing but the files of its artifacts and their temporary files. -/
theorem onlyChanges_commit (hs : Siblings c.output artifacts) (h : ∀ a ∈ artifacts, a.IsRendered c) :
    OnlyChanges IsOutputName (commit c artifacts) := by
  intro w htree
  have hplaces : ∀ s ∈ (w.run (stage c.overwrite.isTrue artifacts)).1.1, Places c.output s := by
    intro s hs'
    obtain ⟨a, ha, rfl⟩ := mem_of_stage _ w s hs'
    exact places_of_rendered hs h ha
  obtain ⟨hreached, hhere⟩ :=
    onlyChanges_stage c.overwrite.isTrue (fun a ha => places_of_rendered hs h ha) w htree
  rcases hrun : w.run (stage c.overwrite.isTrue artifacts) with ⟨⟨staged, stop⟩, w₁⟩
  rw [hrun] at hplaces hreached hhere
  have htree₁ := hreached.isTree htree
  rw [commit, Workspace.run_bind, hrun]
  dsimp only
  split
  · exact ⟨hreached, hhere⟩
  · next heq =>
    cases heq
    obtain ⟨hreached', hhere'⟩ := onlyChanges_discard hplaces w₁ htree₁
    exact ⟨hreached.trans hreached', hhere'.trans hhere⟩
  · next heq =>
    cases heq
    obtain ⟨hreached', hhere'⟩ := onlyChanges_publish hplaces w₁ htree₁
    exact ⟨hreached.trans hreached', hhere'.trans hhere⟩

end Build

end Monomorph
