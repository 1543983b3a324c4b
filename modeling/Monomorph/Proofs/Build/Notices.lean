import Monomorph.Build

/-!
Notices are given and never read. A program that is put together from the operations of a workspace
answers the same, and leaves the same files, whatever notices were given before it. What is done for a
source before it has all its artifacts reads and gives notices only, so it leaves the files as they are.
-/

namespace Monomorph

/-- Two workspaces with the same files and the same current directory. -/
structure Workspace.Agrees (v w : Workspace) : Prop where
  files : v.files = w.files
  here : v.here = w.here

namespace Workspace.Agrees

variable {u v w : Workspace}

theorem refl (w : Workspace) : w.Agrees w := ⟨rfl, rfl⟩

theorem symm (h : v.Agrees w) : w.Agrees v := ⟨h.files.symm, h.here.symm⟩

theorem trans (h : u.Agrees v) (h' : v.Agrees w) : u.Agrees w :=
  ⟨h.files.trans h'.files, h.here.trans h'.here⟩

end Workspace.Agrees

variable {α β : Type}

/-- What a program answers in a workspace, and the workspace after it. -/
def Workspace.run (w : Workspace) (p : StateM Workspace α) : α × Workspace := p w

theorem Workspace.run_bind (w : Workspace) (p : StateM Workspace α) (q : α → StateM Workspace β) :
    w.run (p >>= q) = (w.run p).2.run (q (w.run p).1) := rfl

theorem Workspace.run_pure (w : Workspace) (a : α) : w.run (pure a) = (a, w) := rfl

theorem Workspace.run_kind? (w : Workspace) (path : Path) :
    w.run (Files.kind? path) = (w.files.kind? w.here path, w) := rfl

theorem Workspace.run_makeDirectories (w : Workspace) (path : Path) :
    w.run (Files.makeDirectories path) = ((w.files.makeDirectories w.here path).1,
      { w with files := (w.files.makeDirectories w.here path).2 }) := rfl

theorem Workspace.run_write (w : Workspace) (path : Path) (content : ByteArray) :
    w.run (Files.write path content) = w.after (w.files.write w.here path content) := rfl

theorem Workspace.run_remove (w : Workspace) (path : Path) :
    w.run (Files.remove path) = w.after (w.files.remove w.here path) := rfl

theorem Workspace.run_rename (w : Workspace) (source target : Path) :
    w.run (Files.rename source target) = w.after (w.files.rename w.here source target) := rfl

/-- The program answers the same and leaves the same files, whatever notices were given. -/
def IgnoresNotices (p : StateM Workspace α) : Prop :=
  ∀ v w : Workspace, v.Agrees w → (v.run p).1 = (w.run p).1 ∧ (v.run p).2.Agrees (w.run p).2

/-- The program answers the same whatever notices were given, and leaves the files as they are. -/
def OnlyReads (p : StateM Workspace α) : Prop :=
  ∀ v w : Workspace, v.Agrees w → (v.run p).1 = (w.run p).1 ∧ (v.run p).2.Agrees v

namespace OnlyReads

variable {p : StateM Workspace α} {q : α → StateM Workspace β}

theorem keepsFiles (h : OnlyReads p) (w : Workspace) : (w.run p).2.Agrees w := (h w w (.refl w)).2

theorem ignoresNotices (h : OnlyReads p) : IgnoresNotices p := fun v w hagrees =>
  ⟨(h v w hagrees).1, ((h.keepsFiles v).trans hagrees).trans (h.keepsFiles w).symm⟩

theorem pure (a : α) : OnlyReads (pure a : StateM Workspace α) := fun v _ _ => ⟨rfl, .refl v⟩

theorem bind (hp : OnlyReads p) (hq : ∀ a, OnlyReads (q a)) : OnlyReads (p >>= q) := by
  intro v w h
  obtain ⟨hanswer, hagrees⟩ := hp.ignoresNotices v w h
  simp only [Workspace.run_bind]
  rw [hanswer]
  exact ⟨(hq _ _ _ hagrees).1, ((hq _).keepsFiles _).trans (hp.keepsFiles v)⟩

theorem kind? (path : Path) : OnlyReads (Files.kind? path) := fun v w h =>
  ⟨by simp only [Workspace.run, Files.kind?, h.files, h.here], .refl v⟩

theorem read (path : Path) : OnlyReads (Files.read path) := fun v w h =>
  ⟨by simp only [Workspace.run, Files.read, h.files, h.here], .refl v⟩

theorem note (n : Notice) : OnlyReads (Files.note n) := fun _ _ _ => ⟨rfl, rfl, rfl⟩

theorem notes (ns : List Notice) : OnlyReads (ns.forM Files.note : StateM Workspace PUnit) := by
  induction ns with
  | nil => exact pure _
  | cons n ns ih => exact bind (note n) fun _ => ih

end OnlyReads

namespace IgnoresNotices

variable {p : StateM Workspace α} {q : α → StateM Workspace β}

theorem pure (a : α) : IgnoresNotices (pure a : StateM Workspace α) := (OnlyReads.pure a).ignoresNotices

theorem bind (hp : IgnoresNotices p) (hq : ∀ a, IgnoresNotices (q a)) : IgnoresNotices (p >>= q) := by
  intro v w h
  obtain ⟨hanswer, hagrees⟩ := hp v w h
  simp only [Workspace.run_bind]
  rw [hanswer]
  exact hq _ _ _ hagrees

/-- An operation on the files that may fail, and changes nothing then. -/
theorem after (change : FileSystem → Place → Except FileFault FileSystem) :
    IgnoresNotices fun w => w.after (change w.files w.here) := by
  intro v w h
  simp only [Workspace.run]
  rw [h.files, h.here]
  cases change w.files w.here with
  | error fault => exact ⟨rfl, h⟩
  | ok files => exact ⟨rfl, rfl, h.here⟩

theorem write (path : Path) (content : ByteArray) : IgnoresNotices (Files.write path content) :=
  after fun fs here => fs.write here path content

theorem remove (path : Path) : IgnoresNotices (Files.remove path) :=
  after fun fs here => fs.remove here path

theorem rename (source target : Path) : IgnoresNotices (Files.rename source target) :=
  after fun fs here => fs.rename here source target

theorem makeDirectories (path : Path) : IgnoresNotices (Files.makeDirectories path) := fun v w h => by
  simp only [Workspace.run, Files.makeDirectories, h.files, h.here]
  exact ⟨trivial, rfl, rfl⟩

end IgnoresNotices

namespace Build

variable {c : Config} {write : Bool}

/-! ### What is built without writing -/

theorem onlyReads_expandText (c : Config) (path : Path) (text : String) :
    OnlyReads (expandText c path text) := by
  unfold expandText
  split
  · exact .pure _
  · refine .bind (.notes _) fun _ => ?_
    split
    · exact .pure _
    · exact .bind (.note _) fun _ => .pure _

/-- Nothing is written before a source has all its artifacts. -/
theorem onlyReads_prepare (c : Config) (source : Path) : OnlyReads (prepare c source) := by
  refine .bind (.bind (.bind (.read source) fun _ => .pure _) fun answer => ?_) fun _ => .pure _
  split
  · exact .pure _
  · exact .pure _
  · exact .bind (onlyReads_expandText c source _) fun _ => .pure _

theorem onlyReads_failed (source : Path) (e : BuildError) : OnlyReads (failed source e) :=
  .bind (.note _) fun _ => .pure _

/-! ### What is written -/

theorem ignoresNotices_stage (overwrite : Bool) (artifacts : List Artifact) :
    IgnoresNotices (stage overwrite artifacts) := by
  induction artifacts with
  | nil => exact .pure _
  | cons a rest ih =>
    refine .bind (OnlyReads.kind? a.path).ignoresNotices fun kind => ?_
    split
    · exact .pure _
    · split
      · exact .bind (OnlyReads.note _).ignoresNotices fun _ => ih
      · refine .bind (.makeDirectories _) fun made => ?_
        split
        · exact .pure _
        · refine .bind (.write _ _) fun wrote => ?_
          split
          · exact .pure _
          · exact .bind ih fun _ => .pure _

theorem ignoresNotices_discard (staged : List Staged) : IgnoresNotices (discard staged) := by
  induction staged with
  | nil => exact .pure _
  | cons s rest ih =>
    refine .bind (.remove s.temporary) fun removed => ?_
    split
    · exact ih
    · exact ih
    · exact .pure _

theorem ignoresNotices_publish (staged : List Staged) : IgnoresNotices (publish staged) := by
  induction staged with
  | nil => exact .pure _
  | cons s rest ih =>
    refine .bind (.rename _ _) fun moved => ?_
    split
    · exact .pure _
    · exact .bind ih fun _ => .pure _

theorem ignoresNotices_commit (c : Config) (artifacts : List Artifact) :
    IgnoresNotices (commit c artifacts) := by
  refine .bind (ignoresNotices_stage _ artifacts) fun stopped => ?_
  split
  · exact .pure _
  · exact .bind (ignoresNotices_discard _) fun _ => .pure _
  · exact .bind (ignoresNotices_publish _) fun _ => .pure _

/-! ### Builds -/

variable {enter : Ledger → Path → Product → Except BuildError Ledger}

theorem ignoresNotices_settle (c : Config) (write : Bool) (source : Path) (p : Product) :
    IgnoresNotices (settle c write source p) := by
  unfold settle
  split
  · refine .bind (ignoresNotices_commit c _) fun committed => ?_
    split
    · exact .pure _
    · exact .pure _
    · exact .bind (onlyReads_failed source _).ignoresNotices fun _ => .pure _
  · exact .pure _

theorem ignoresNotices_processWith (l : Ledger) (source : Path) :
    IgnoresNotices (processWith c write enter l source) := by
  refine .bind (onlyReads_prepare c source).ignoresNotices fun prepared => ?_
  split
  · exact .pure _
  · exact .bind (onlyReads_failed source _).ignoresNotices fun _ => .pure _
  · split
    · exact .bind (onlyReads_failed source _).ignoresNotices fun _ => .pure _
    · exact .bind (ignoresNotices_settle c write source _) fun _ => .pure _

end Build

end Monomorph
