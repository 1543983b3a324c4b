import Monomorph.Proofs.Build.Preservation
import Monomorph.Proofs.Build.Traces

/-!
Builds that are run again. Sources that read the same at every time of a build are prepared the same; each
commit finds the traces that it has left, through everything that came after it; and so the same sources
have the same outcomes, and the files stay as they are.
-/

namespace Monomorph.Build

open FileSystem

variable {c : Config} {write : Bool} {enter : Ledger → Path → Product → Except BuildError Ledger}
  {l l₁ : Ledger} {u v v' w w' w₁ : Workspace} {source : Path} {sources : List Path} {o o' : Outcome}
  {outcomes : List Outcome} {as : List Artifact} {here : Place} {fs fs' before after : FileSystem}
  {result : Except BuildError (List Path)} {written attempted : Artifact → Prop} {unsure unsure' : Prop}

/-! ### The same sources -/

/-- What is made of a text does not depend on the workspace. -/
theorem run_expandText_congr (c : Config) (path : Path) (text : String) (v w : Workspace) :
    (v.run (expandText c path text)).1 = (w.run (expandText c path text)).1 := by
  unfold expandText
  split
  · rfl
  · rw [Workspace.run_bind, Workspace.run_bind]
    split
    · rfl
    · rfl

/-- What is prepared from a source depends on what can be read there only. -/
theorem run_prepare_congr (h : v.files.read v.here source = w.files.read w.here source) :
    (v.run (prepare c source)).1 = (w.run (prepare c source)).1 := by
  have hread : (v.run (Source.read source)).1 = (w.run (Source.read source)).1 :=
    congrArg Source.ofContent h
  have hfile : (v.run (expandFile c source)).1 = (w.run (expandFile c source)).1 := by
    unfold expandFile
    rw [Workspace.run_bind, Workspace.run_bind, hread]
    split
    · rfl
    · rfl
    · next text _ =>
      rw [Workspace.run_bind, Workspace.run_bind, Workspace.run_pure, Workspace.run_pure]
      exact congrArg Except.ok (run_expandText_congr c source text _ _)
  unfold prepare
  rw [Workspace.run_bind, Workspace.run_bind, Workspace.run_pure, Workspace.run_pure, hfile]

/-- Whatever outputs are written and removed, the same can be read at the path. -/
def Steady (here : Place) (fs : FileSystem) (path : Path) : Prop :=
  ∀ fs', Reached IsOutputName fs fs' → fs'.read here path = fs.read here path

theorem Steady.of_reached {path : Path} (h : Steady here fs path) (hreached : Reached IsOutputName fs fs') :
    Steady here fs' path := fun fs'' hreached' =>
  (h fs'' (hreached.trans hreached')).trans (h fs' hreached).symm

/-! ### Where the output directory cannot be made -/

/-- Where the output directory cannot be made nothing is staged, and nothing changes. -/
theorem Stages.of_shut {overwrite : Bool} {dir : Path} {staged : List Artifact} {stop : Option StagingFault}
    (h : Stages overwrite dir here fs as staged stop fs')
    (hpaths : ∀ a ∈ as, a.path = dir.child a.path.name) (hshut : Shut dir here fs) :
    staged = [] ∧ fs' = fs ∧ (as = [] ∨ stop ≠ none) := by
  obtain ⟨fault, hfault⟩ := hshut
  cases h with
  | nil => exact ⟨rfl, rfl, .inl rfl⟩
  | skipped keep finds next =>
    obtain ⟨hopens, hfit⟩ := opens_of_finds (hpaths _ List.mem_cons_self) finds
    exact absurd ⟨hfit, hopens⟩ (not_opens_of_makeDirectories hfault)
  | lost => exact ⟨rfl, rfl, .inr (by simp)⟩
  | shut tries made =>
    rw [hfault] at made
    cases made
    exact ⟨rfl, rfl, .inr (by simp)⟩
  | unwritten tries made =>
    rw [hfault] at made
    cases made
  | staged tries made =>
    rw [hfault] at made
    cases made

/-- A commit that cannot make the output directory changes nothing, and writes nothing. -/
theorem files_of_commit_shut (hs : Siblings c.output as) (hshut : Shut c.output w.here w.files)
    (h : w.run (commit c as) = (.ok result, w')) :
    w'.files = w.files ∧ (as = [] ∨ ∀ paths, result ≠ .ok paths) := by
  cases committed_of_commit (fun a ha => hs.parent ha) h with
  | published staging stages here moved =>
    obtain ⟨rfl, hfiles, hnone⟩ := stages.of_shut hs.path hshut
    cases moved
    exact ⟨hfiles, .inl (hnone.resolve_right fun hstop => hstop rfl)⟩
  | withdrawn staging stages here named discarded =>
    obtain ⟨rfl, hfiles, -⟩ := stages.of_shut hs.path hshut
    cases discarded
    exact ⟨hfiles, .inr (by simp)⟩

theorem Turn.files_of_shut (h : Turn c write enter l w source o l₁ w₁) (hproper : source.IsProper)
    (hshut : Shut c.output w.here w.files) : w₁.files = w.files := by
  cases h with
  | rejected _ kept | refused _ _ kept | rendered _ _ _ kept => exact kept.files
  | written prepared _ _ committed kept | unwritable prepared _ _ committed kept =>
    obtain ⟨hrendered, hpaths⟩ := isRendered_of_prepare hproper prepared
    exact kept.files.trans (files_of_commit_shut (siblings_of_rendered hrendered hpaths) hshut committed).1

/-- A run that cannot make the output directory changes nothing. -/
theorem Run.files_of_shut (h : Run c write enter l w sources outcomes l₁ w₁)
    (hproper : ∀ s ∈ sources, s.IsProper) (htree : IsTree w.files)
    (hhere : w.files.node? w.here = some .directory) (hshut : Shut c.output w.here w.files) :
    w₁.files = w.files := by
  induction h with
  | nil => rfl
  | @cons l l' _ w w' _ source rest o later step _ ih =>
    obtain ⟨hfirst, hrest⟩ := List.forall_mem_cons.1 hproper
    have hturn := turn_of_processWith step
    have hfiles := hturn.files_of_shut hfirst hshut
    have hhere' := (hturn.frame hfirst htree hhere).1
    rw [← hfiles, ← hhere'] at hshut hhere
    rw [← hfiles] at htree
    exact (ih hrest htree hhere hshut).trans hfiles

/-! ### Again -/

/-- A path that leads up out of a missing directory after a frame has done so before it. -/
theorem Frame.climbs (h : Frame c here before after written attempted)
    (hclimbs : Climbs after (c.output.start here) c.output.parts) :
    Climbs before (c.output.start here) c.output.parts := by
  have hnone : ∀ q ∈ c.output.above here, after.node? q = none → before.node? q = none := by
    intro q hq hnode
    cases h.accounted q with
    | stays h =>
      rcases h with hsame | ⟨-, hnone, -⟩
      · rwa [← hsame]
      · exact hnone
    | target _ _ h =>
      rw [hnode] at h
      cases h
    | temporary _ _ hopens _ =>
      rw [hopens q (List.mem_append_left _ hq)] at hnode
      cases hnode
  have hall : ∀ {names : List String} {q : Place},
      (∀ r ∈ Place.through q names, after.node? r = none → before.node? r = none) →
      Climbs after q names → Climbs before q names := by
    intro names
    induction names with
    | nil => exact fun _ => id
    | cons name names ih =>
      intro q hall
      obtain ⟨hfirst, hrest⟩ := List.forall_mem_cons.1 hall
      exact Or.imp (And.imp_right hfirst) (ih hrest)
  exact hall hnone hclimbs

/-- Two outcomes of the same source: the same product, whether or not it was written again; or an error
that recurs. -/
structure Repeats (unsure : Prop) (o o' : Outcome) : Prop where
  source : o'.source = o.source
  result : (∃ p, o.result = .ok p ∧ o'.result = .ok p) ∨
    ∃ e e', o.result = .error e ∧ o'.result = .error e' ∧ Recurs unsure e e'

theorem Repeats.mono (h : Repeats unsure o o') (himp : unsure → unsure') : Repeats unsure' o o' :=
  ⟨h.source, h.result.imp_right fun ⟨e, e', he, he', hrecurs⟩ => ⟨e, e', he, he', hrecurs.mono himp⟩⟩

theorem Repeats.result_eq (h : Repeats unsure o o') (hsure : ¬ unsure) : o'.result = o.result := by
  rcases h.result with ⟨p, hp, hp'⟩ | ⟨e, e', he, he', hrecurs⟩
  · rw [hp, hp']
  · cases hrecurs with
    | same => rw [he, he']
    | met hunsure => exact absurd hunsure hsure

/-- A commit comes to the same once more, after everything that comes later, and leaves the files as they
are. -/
theorem exists_commit_again (hs : Siblings c.output as) (hrendered : ∀ a ∈ as, a.IsRendered c)
    (htree : IsTree w.files) (hhere : w.files.node? w.here = some .directory)
    (h : w.run (commit c as) = (.ok result, w')) (hkept : w₁.Agrees w') (hv : v.here = w.here)
    (hframe : Frame c w.here w₁.files v.files written attempted)
    (hother : ∀ a ∈ as, ∀ b, written b → b.path ≠ a.path)
    (hshut : Shut c.output w.here w₁.files → v.files = w₁.files) :
    ∃ result' v', v.run (commit c as) = (.ok result', v') ∧ v.Agrees v' ∧
      ((∃ paths paths', result = .ok paths ∧ result' = .ok paths') ∨
        ∃ e e', result = .error e ∧ result' = .error e' ∧ Recurs (Unsure c w.here w.files v.files) e e') := by
  rw [hkept.files] at hframe hshut
  have htraces : Traces c w.here w.files as w'.files result := by
    cases result with
    | ok paths => exact traces_of_commit_ok hrendered hs.nodup htree hhere h
    | error e => exact traces_of_commit_error hrendered hs.nodup hhere h
  have hlater := htraces.of_frame hs hrendered hframe hother hshut
  rw [← hv] at hlater ⊢
  obtain ⟨result', v', hrun, hhere', hfiles, hsame⟩ := hlater.exists_commit hs htree
  exact ⟨result', v', hrun, ⟨hfiles.symm, hhere'.symm⟩, hsame⟩

/-- A turn comes to the same once more, after everything that comes later, and leaves the files as they
are. -/
theorem Turn.again (h : Turn c write enter l w source o l₁ w₁) (hproper : source.IsProper)
    (htree : IsTree w.files) (hhere : w.files.node? w.here = some .directory)
    (hread : v.files.read v.here source = w.files.read w.here source) (hv : v.here = w.here)
    (hframe : Frame c w.here w₁.files v.files written attempted)
    (hother : ∀ p, (w.run (prepare c source)).1 = .ok (.ok p) → enter l source p = .ok l₁ →
      ∀ a ∈ p.artifacts, ∀ b, written b → b.path ≠ a.path)
    (hshut : Shut c.output w.here w₁.files → v.files = w₁.files) :
    ∃ o', Turn c write enter l v source o' l₁ v ∧
      Repeats (write = true ∧ Unsure c w.here w.files v.files) o o' := by
  have hprepare := run_prepare_congr (c := c) hread
  cases h with
  | @rejected e _ prepared kept =>
    exact ⟨_, .rejected (hprepare.trans prepared) (.refl v), rfl, .inr ⟨e, e, rfl, rfl, .same e⟩⟩
  | @refused p e _ prepared refuses kept =>
    exact ⟨_, .refused (hprepare.trans prepared) refuses (.refl v), rfl, .inr ⟨e, e, rfl, rfl, .same e⟩⟩
  | @rendered p _ _ prepared enters dry kept =>
    exact ⟨_, .rendered (hprepare.trans prepared) enters dry (.refl v), rfl, .inl ⟨p, rfl, rfl⟩⟩
  | @written p _ _ _ _ prepared enters wet committed kept =>
    obtain ⟨hrendered, hpaths⟩ := isRendered_of_prepare hproper prepared
    obtain ⟨_, v', hrun, hagrees, hsame⟩ := exists_commit_again (siblings_of_rendered hrendered hpaths) hrendered
      htree hhere committed kept hv hframe (hother p prepared enters) hshut
    rcases hsame with ⟨_, paths, -, rfl⟩ | ⟨_, _, h, -⟩
    · exact ⟨_, .written (hprepare.trans prepared) enters wet hrun hagrees, rfl, .inl ⟨p, rfl, rfl⟩⟩
    · cases h
  | @unwritable p _ e _ _ prepared enters wet committed kept =>
    obtain ⟨hrendered, hpaths⟩ := isRendered_of_prepare hproper prepared
    obtain ⟨_, v', hrun, hagrees, hsame⟩ := exists_commit_again (siblings_of_rendered hrendered hpaths) hrendered
      htree hhere committed kept hv hframe (hother p prepared enters) hshut
    rcases hsame with ⟨_, _, h, -⟩ | ⟨_, e', h, rfl, hrecurs⟩
    · cases h
    · cases h
      exact ⟨_, .unwritable (hprepare.trans prepared) enters wet hrun hagrees, rfl,
        .inr ⟨e, e', rfl, rfl, hrecurs.mono fun hunsure => ⟨wet, hunsure⟩⟩⟩

/-- What is foreign to all products is written beside what some outcomes say was written. -/
theorem ne_of_foreign (hbuilt : ∀ o ∈ outcomes, ∀ p, o.result = .ok p → p.IsBuilt c)
    (hforeign : ∀ b, written b → ∀ p : Product, p.IsBuilt c → ∀ a ∈ p.artifacts, b.path ≠ a.path) :
    ∀ a b, Written outcomes a → written b → b.path ≠ a.path := by
  rintro a b ⟨o, ho, ha, -⟩ hb
  unfold Outcome.artifacts at ha
  split at ha
  · next p hp => exact hforeign b hb p (hbuilt o ho p hp) a ha
  · cases ha

/-- A run comes to the same once more, after everything that comes later, and leaves the files as they
are. -/
theorem Run.again (h : Run c write enter l w sources outcomes l₁ w₁) (henter : Ledger.TakesNew enter)
    (hproper : ∀ s ∈ sources, s.IsProper) (htree : IsTree w.files)
    (hhere : w.files.node? w.here = some .directory) (hsteady : ∀ s ∈ sources, Steady w.here w.files s)
    (hv : v.here = w.here) (hframe : Frame c w.here w₁.files v.files written attempted)
    (hforeign : ∀ b, written b → ∀ p : Product, p.IsBuilt c → ∀ a ∈ p.artifacts, b.path ≠ a.path)
    (hshut : Shut c.output w.here w₁.files → v.files = w₁.files) :
    ∃ outcomes' v₁, Run c write enter l v sources outcomes' l₁ v₁ ∧ v₁.Agrees v ∧
      List.Forall₂ (Repeats (write = true ∧ Unsure c w.here w.files v.files)) outcomes outcomes' := by
  induction h generalizing v with
  | nil => exact ⟨[], v, .nil, .refl v, .nil⟩
  | @cons l l' l₁ w w' w₁ source rest o later step next ih =>
    obtain ⟨hfirst, hrest⟩ := List.forall_mem_cons.1 hproper
    obtain ⟨hsteadyFirst, hsteadyRest⟩ := List.forall_mem_cons.1 hsteady
    have hturn := turn_of_processWith step
    obtain ⟨hhere', hframe'⟩ := hturn.frame hfirst htree hhere
    have htree' := hframe'.reached.isTree htree
    have hdir' := hframe'.directory hhere' hhere
    obtain ⟨-, hnext⟩ := next.frame henter hrest htree' hdir'
    rw [hhere'] at hnext
    -- what comes after the first source: the other sources, and what comes after them
    have htail := hnext.append hframe (ne_of_foreign next.isBuilt.2 hforeign)
    have hread : v.files.read v.here source = w.files.read w.here source := by
      rw [hv]
      exact hsteadyFirst _ (hframe'.reached.trans htail.reached)
    obtain ⟨o', hagain, hrepeats⟩ := hturn.again hfirst htree hhere hread hv htail (by
      rintro p prepared enters a ha b (⟨o', ho', -, hb⟩ | hb) heq
      · exact (next.written_entered henter hrest o' ho' _ hb).1
          (heq ▸ Turn.mem_paths_of_enters henter enters ha)
      · exact hforeign b hb p (isBuilt_of_prepare prepared) a ha heq) (by
      intro hclosed
      have hsame : w₁.files = w'.files :=
        next.files_of_shut hrest htree' hdir' (by rwa [hhere'])
      rw [hsame] at hshut
      exact hshut hclosed)
    obtain ⟨u, hrun, hagrees⟩ := hagain.exists_run
    rw [← hhere'] at hframe hshut
    obtain ⟨outcomes', u₁, hrun', hagrees', hall⟩ := ih (v := u) hrest htree' hdir'
      (fun s hs => by rw [hhere']; exact (hsteadyRest s hs).of_reached hframe'.reached)
      (by rw [hagrees.here, hv, hhere']) (by rwa [hagrees.files]) (by rwa [hagrees.files])
    refine ⟨o' :: outcomes', u₁, .cons hrun hrun', hagrees'.trans hagrees, .cons hrepeats ?_⟩
    refine hall.imp fun p p' hp => hp.mono ?_
    rw [hhere', hagrees.files]
    exact And.imp_right (And.imp_right hframe'.climbs)

end Monomorph.Build
