import Monomorph.Proofs.Build.Product
import Monomorph.Proofs.Build.Stage

/-!
Committing artifacts. What is staged is moved to its target, or taken back if staging has stopped, one
artifact after the other. So a commit ends well, or it ends with an error and has changed no target, or a
directory is in its way where it does not expect one.
-/

namespace Monomorph.Build

open FileSystem

variable {dir : Path} {here : Place} {artifacts rest : List Artifact} {before fs fs' : FileSystem}
  {status status' : Artifact → Status} {a b : Artifact}

/-- The status of an artifact after what was staged has been moved. -/
def Status.moved : Status → Status
  | staged => published
  | s => s

/-- The status of an artifact after what was staged has been taken back. -/
def Status.tidied : Status → Status
  | staged => removed
  | s => s

theorem stagedOf_congr (h : ∀ a ∈ rest, status' a = status a) :
    stagedOf status' rest = stagedOf status rest := by
  rw [stagedOf, List.filter_congr fun a ha => by rw [h a ha], stagedOf]

/-! ### Taking back -/

/-- The temporary file of a staged artifact can be removed. -/
theorem Leaves.exists_remove (hs : Siblings dir artifacts)
    (h : Leaves dir here artifacts before status fs) (ha : a ∈ artifacts) (hstaged : status a = .staged)
    (hfit : (temporaryPath a).IsFit) (hopens : fs.Opens here dir) :
    ∃ fs', fs.remove here (temporaryPath a) = .ok fs' ∧ fs'.Opens here dir ∧
      (∀ q, q ≠ temporaryPlace here a → fs'.node? q = fs.node? q) ∧
      Leaves dir here artifacts before (Function.update status a .removed) fs' := by
  have hholds := h.each a ha
  rw [hstaged] at hholds
  obtain ⟨htarget, hfile⟩ := hholds
  have hreaches := hopens.reaches_child (a.path.name ++ temporaryEnding)
  rw [← hs.temporaryPath_eq ha] at hreaches
  have hplace : temporaryPlace here a ≠ [] := hs.temporaryPlace_ne_nil ha
  have hnode : ∀ q, (fs.erase (temporaryPlace here a)).node? q =
      if q = temporaryPlace here a then none else fs.node? q := node?_erase hplace
  refine ⟨fs.erase (temporaryPlace here a), remove_of_file hfit hreaches hfile,
    hopens.of_erase (by rw [hfile]; simp), fun q hq => ?_,
    h.update hs ha (fun q _ hq => ?_) ⟨?_, ?_⟩⟩
  · rw [hnode, if_neg hq]
  · rw [hnode, if_neg hq]
  · rwa [Stays, hnode, if_neg (hs.targetPlace_ne_temporaryPlace ha ha)]
  · rw [hnode, if_pos rfl]

/-- How taking back runs on the files of a workspace. -/
theorem run_discard_cons (a : Artifact) (rest : List Staged) (w : Workspace) :
    w.run (discard (.beside a.path :: rest)) =
      match w.files.remove w.here (temporaryPath a) with
      | .ok fs => Workspace.run { w with files := fs } (discard rest)
      | .error .missing => w.run (discard rest)
      | .error fault => (.error fault, w) := by
  rw [discard, Workspace.run_bind, Workspace.run_remove, temporaryPath]
  cases w.files.remove w.here (Staged.beside a.path).temporary with
  | ok fs => rfl
  | error fault => cases fault <;> rfl

/-- Everything that is staged can be taken back. -/
theorem exists_discard (hs : Siblings dir artifacts) (rest : List Artifact)
    (hsub : ∀ a ∈ rest, a ∈ artifacts) (hnodup : rest.Nodup) (w : Workspace)
    (h : Leaves dir w.here artifacts before status w.files)
    (hready : ∀ a ∈ rest, status a = .untouched ∨
      status a = .staged ∧ (temporaryPath a).IsFit ∧ w.files.Opens w.here dir) :
    ∃ (w' : Workspace) (status' : Artifact → Status), w'.here = w.here ∧
      (∀ more, w.run (discard (stagedOf status rest ++ more)) = w'.run (discard more)) ∧
      (∀ a ∈ rest, status' a = (status a).tidied) ∧ (∀ a, a ∉ rest → status' a = status a) ∧
      (∀ q, (∀ a ∈ rest, status a = .staged → q ≠ temporaryPlace w.here a) →
        w'.files.node? q = w.files.node? q) ∧
      Leaves dir w.here artifacts before status' w'.files := by
  induction rest generalizing w status with
  | nil => exact ⟨w, status, rfl, fun _ => rfl, by simp, fun _ _ => rfl, fun _ _ => rfl, h⟩
  | cons a rest ih =>
    obtain ⟨ha, hsub⟩ := List.forall_mem_cons.1 hsub
    obtain ⟨hnew, hnodup⟩ := List.nodup_cons.1 hnodup
    obtain ⟨hfirst, hrest⟩ := List.forall_mem_cons.1 hready
    rcases hfirst with huntouched | ⟨hstaged, hfit, hopens⟩
    · obtain ⟨w', status', hhere, hrun, htidied, hkept, hframe, hleaves⟩ := ih hsub hnodup w h hrest
      refine ⟨w', status', hhere, fun more => ?_, List.forall_mem_cons.2 ⟨?_, htidied⟩, fun b hb => ?_,
        fun q hq => ?_, hleaves⟩
      · rw [stagedOf_cons_of_untouched huntouched, hrun]
      · rw [hkept a hnew, huntouched]
        rfl
      · exact hkept b fun hmem => hb (List.mem_cons_of_mem _ hmem)
      · exact hframe q fun b hb => hq b (List.mem_cons_of_mem _ hb)
    · obtain ⟨fs', hremove, hopens', hframe', hleaves'⟩ := h.exists_remove hs ha hstaged hfit hopens
      have hother : ∀ b ∈ rest, Function.update status a .removed b = status b := fun b hb =>
        Function.update_of_ne (by rintro rfl; exact hnew hb) _ _
      obtain ⟨w', status', hhere, hrun, htidied, hkept, hframe, hleaves⟩ :=
        ih hsub hnodup { w with files := fs' } hleaves' fun b hb => by
          rw [hother b hb]
          exact (hrest b hb).imp_right fun hstaged => ⟨hstaged.1, hstaged.2.1, hopens'⟩
      refine ⟨w', status', hhere, fun more => ?_, List.forall_mem_cons.2 ⟨?_, fun b hb => ?_⟩,
        fun b hb => ?_, fun q hq => ?_, hleaves⟩
      · have hsame := hrun more
        rw [stagedOf_congr hother] at hsame
        rw [stagedOf_cons_of_staged hstaged, List.cons_append, run_discard_cons, hremove]
        exact hsame
      · rw [hkept a hnew, Function.update_self, hstaged]
        rfl
      · rw [htidied b hb, hother b hb]
      · obtain ⟨hne, hmem⟩ := not_or.1 (List.mem_cons.not.1 hb)
        rw [hkept b hmem, Function.update_of_ne hne]
      · refine (hframe q fun b hb hb' => ?_).trans (hframe' q (hq a List.mem_cons_self hstaged))
        rw [hother b hb] at hb'
        exact hq b (List.mem_cons_of_mem _ hb) hb'

/-! ### Moving -/

/-- The temporary file of a staged artifact is moved to its target, unless a directory is there. -/
theorem Leaves.exists_rename (hs : Siblings dir artifacts)
    (h : Leaves dir here artifacts before status fs) (ha : a ∈ artifacts) (hstaged : status a = .staged)
    (hfit : (temporaryPath a).IsFit) (hopens : fs.Opens here dir) :
    (fs.rename here (temporaryPath a) a.path = .error .isDirectory ∧
      fs.node? (targetPlace here a) = some .directory) ∨
    ∃ fs', fs.rename here (temporaryPath a) a.path = .ok fs' ∧ fs'.Opens here dir ∧
      Leaves dir here artifacts before (Function.update status a .published) fs' := by
  have hholds := h.each a ha
  rw [hstaged] at hholds
  obtain ⟨-, hfile⟩ := hholds
  have hreaches := hopens.reaches_child (a.path.name ++ temporaryEnding)
  rw [← hs.temporaryPath_eq ha] at hreaches
  have hreaches' := hopens.reaches_child a.path.name
  rw [← hs.path a ha] at hreaches'
  rcases rename_of_file hfit (hs.isFit ha hfit) hreaches hreaches' hfile with
    ⟨hfree, hrename⟩ | ⟨hdir, hrename⟩
  · have hnode : ∀ q, ((fs.erase (temporaryPlace here a)).put (targetPlace here a)
        (.file (Text.Utf8.encode a.content))).node? q =
        if q = targetPlace here a then some (.file (Text.Utf8.encode a.content))
        else if q = temporaryPlace here a then none else fs.node? q := fun q => by
      rw [node?_put (hs.targetPlace_ne_nil ha), node?_erase (hs.temporaryPlace_ne_nil ha)]
    have hne : targetPlace here a ≠ temporaryPlace here a := hs.targetPlace_ne_temporaryPlace ha ha
    have hwithout : (fs.erase (temporaryPlace here a)).node? (targetPlace here a) ≠ some .directory := by
      rwa [node?_erase (hs.temporaryPlace_ne_nil ha), if_neg hne]
    have herase : (fs.erase (temporaryPlace here a)).Opens here dir :=
      hopens.of_erase (by rw [hfile]; simp)
    refine .inr ⟨_, hrename, herase.of_put hwithout, h.update hs ha (fun q hq hq' => ?_) ⟨?_, ?_⟩⟩
    · exact (hnode q).trans ((if_neg hq).trans (if_neg hq'))
    · exact (hnode _).trans (if_pos rfl)
    · exact (hnode _).trans ((if_neg hne.symm).trans (if_pos rfl))
  · exact .inl ⟨hrename, hdir⟩

/-- How moving runs on the files of a workspace. -/
theorem run_publish_cons (a : Artifact) (rest : List Staged) (w : Workspace) :
    w.run (publish (.beside a.path :: rest)) =
      match w.files.rename w.here (temporaryPath a) a.path with
      | .error fault => (.error fault, w)
      | .ok fs =>
        ((Workspace.run { w with files := fs } (publish rest)).1.map (a.path :: ·),
          (Workspace.run { w with files := fs } (publish rest)).2) := by
  have htarget : (Staged.beside a.path).target = a.path := rfl
  rw [publish, Workspace.run_bind, Workspace.run_rename, htarget, temporaryPath]
  cases w.files.rename w.here (Staged.beside a.path).temporary a.path with
  | ok fs => rfl
  | error fault => rfl

/-- What moving answers: everything that was staged has been moved, or it has stopped at a target that is
a directory. -/
inductive PublishEnd (here : Place) (after : FileSystem) (status status' : Artifact → Status)
    (rest : List Artifact) : Except FileFault (List Path) → Prop
  | done (h : ∀ a ∈ rest, status' a = (status a).moved) :
      PublishEnd here after status status' rest
        (.ok ((rest.filter (status' · = .published)).map (·.path)))
  | stopped {pre post : List Artifact} {a : Artifact} (hrest : rest = pre ++ a :: post)
      (hstaged : status a = .staged) (hdir : after.node? (targetPlace here a) = some .directory)
      (hpre : ∀ b ∈ pre, status' b = (status b).moved) (hpost : ∀ b ∈ a :: post, status' b = status b) :
      PublishEnd here after status status' rest (.error .isDirectory)

namespace PublishEnd

variable {moved : Artifact → Status} {answer : Except FileFault (List Path)}

theorem cons_untouched (h : PublishEnd here fs status status' rest answer) (ha : status a = .untouched)
    (ha' : status' a = .untouched) : PublishEnd here fs status status' (a :: rest) answer := by
  cases h with
  | done h =>
    have hall : ∀ b ∈ a :: rest, status' b = (status b).moved :=
      List.forall_mem_cons.2 ⟨by rw [ha', ha]; rfl, h⟩
    have hend : PublishEnd here fs status status' (a :: rest) _ := .done hall
    rwa [List.filter_cons_of_neg (by simp [ha'])] at hend
  | @stopped pre post b hrest hstaged hdir hpre hpost =>
    have hsplit : a :: rest = (a :: pre) ++ b :: post := by rw [hrest, List.cons_append]
    exact .stopped hsplit hstaged hdir (List.forall_mem_cons.2 ⟨by rw [ha', ha]; rfl, hpre⟩) hpost

theorem cons_moved (h : PublishEnd here fs moved status' rest answer)
    (hrest : ∀ b ∈ rest, moved b = status b) (ha : status a = .staged) (ha' : status' a = .published) :
    PublishEnd here fs status status' (a :: rest) (answer.map (a.path :: ·)) := by
  cases h with
  | done h =>
    have hall : ∀ b ∈ a :: rest, status' b = (status b).moved :=
      List.forall_mem_cons.2 ⟨by rw [ha', ha]; rfl, fun b hb => by rw [h b hb, hrest b hb]⟩
    have hend : PublishEnd here fs status status' (a :: rest) _ := .done hall
    rwa [List.filter_cons_of_pos (by simpa using ha')] at hend
  | @stopped pre post b hsplit hstaged hdir hpre hpost =>
    subst hsplit
    have hpreSame : ∀ d ∈ pre, moved d = status d := fun d hd => hrest d (List.mem_append_left _ hd)
    have hpostSame : ∀ d ∈ b :: post, moved d = status d := fun d hd =>
      hrest d (List.mem_append_right _ hd)
    have hlonger : a :: (pre ++ b :: post) = (a :: pre) ++ b :: post := List.cons_append.symm
    refine .stopped hlonger
      ((hpostSame b List.mem_cons_self).symm.trans hstaged) hdir (List.forall_mem_cons.2 ⟨?_, ?_⟩) ?_
    · rw [ha', ha]
      rfl
    · exact fun d hd => by rw [hpre d hd, hpreSame d hd]
    · exact fun d hd => by rw [hpost d hd, hpostSame d hd]

end PublishEnd

/-- What is staged is moved in order, up to the first target that is a directory. -/
theorem exists_publish (hs : Siblings dir artifacts) (rest : List Artifact)
    (hsub : ∀ a ∈ rest, a ∈ artifacts) (hnodup : rest.Nodup) (w : Workspace)
    (h : Leaves dir w.here artifacts before status w.files)
    (hready : ∀ a ∈ rest, status a = .untouched ∨
      status a = .staged ∧ (temporaryPath a).IsFit ∧ w.files.Opens w.here dir) :
    ∃ answer w' status', w.run (publish (stagedOf status rest)) = (answer, w') ∧ w'.here = w.here ∧
      (∀ a, a ∉ rest → status' a = status a) ∧
      Leaves dir w.here artifacts before status' w'.files ∧
      PublishEnd w.here w'.files status status' rest answer := by
  induction rest generalizing w status with
  | nil => exact ⟨.ok [], w, status, rfl, rfl, fun _ _ => rfl, h, .done (by simp)⟩
  | cons a rest ih =>
    obtain ⟨ha, hsub⟩ := List.forall_mem_cons.1 hsub
    obtain ⟨hnew, hnodup⟩ := List.nodup_cons.1 hnodup
    obtain ⟨hfirst, hrest⟩ := List.forall_mem_cons.1 hready
    rcases hfirst with huntouched | ⟨hstaged, hfit, hopens⟩
    · obtain ⟨answer, w', status', hrun, hhere, hkept, hleaves, hend⟩ := ih hsub hnodup w h hrest
      refine ⟨answer, w', status', ?_, hhere, fun b hb => ?_, hleaves, ?_⟩
      · rw [stagedOf_cons_of_untouched huntouched, hrun]
      · exact hkept b fun hmem => hb (List.mem_cons_of_mem _ hmem)
      · exact hend.cons_untouched huntouched ((hkept a hnew).trans huntouched)
    · rcases h.exists_rename hs ha hstaged hfit hopens with
        ⟨hrename, hdir⟩ | ⟨fs', hrename, hopens', hleaves'⟩
      · have hsplit : a :: rest = [] ++ a :: rest := rfl
        refine ⟨.error .isDirectory, w, status, ?_, rfl, fun _ _ => rfl, h,
          .stopped hsplit hstaged hdir (by simp) fun _ _ => rfl⟩
        rw [stagedOf_cons_of_staged hstaged, run_publish_cons, hrename]
      · have hother : ∀ b ∈ rest, Function.update status a .published b = status b := fun b hb =>
          Function.update_of_ne (by rintro rfl; exact hnew hb) _ _
        obtain ⟨answer, w', status', hrun, hhere, hkept, hleaves, hend⟩ :=
          ih hsub hnodup { w with files := fs' } hleaves' fun b hb => by
            rw [hother b hb]
            exact (hrest b hb).imp_right fun hstaged => ⟨hstaged.1, hstaged.2.1, hopens'⟩
        refine ⟨answer.map (a.path :: ·), w', status', ?_, hhere, fun b hb => ?_, hleaves, ?_⟩
        · rw [stagedOf_congr hother] at hrun
          rw [stagedOf_cons_of_staged hstaged, run_publish_cons, hrename]
          dsimp only
          rw [hrun]
        · obtain ⟨hne, hmem⟩ := not_or.1 (List.mem_cons.not.1 hb)
          rw [hkept b hmem, Function.update_of_ne hne]
        · exact hend.cons_moved hother hstaged ((hkept a hnew).trans (Function.update_self ..))

/-! ### Commits -/

variable {c : Config}

theorem siblings_of_rendered (hrendered : ∀ a ∈ artifacts, a.IsRendered c)
    (hpaths : (artifacts.map (·.path)).Nodup) : Siblings c.output artifacts := by
  have hending : ∀ e ∈ Artifact.endings, 2 < e.toList.length ∧ ¬ e.toList <:+ temporaryEnding.toList ∧
      ¬ temporaryEnding.toList <:+ e.toList := by decide
  refine ⟨hpaths, fun a ha => ?_, fun a ha => ?_, fun a ha => ?_⟩
  all_goals
    obtain ⟨s, e, he, hpath⟩ := (hrendered a ha).exists_path
    rw [hpath, Path.name_child]
  · intro hup
    have hlength := congrArg (fun s => s.toList.length) hup
    have htwo : "..".toList.length = 2 := by decide
    simp only [String.toList_append, List.length_append, htwo] at hlength
    have hlong := (hending e he).1
    omega
  · intro htemporary
    rw [String.toList_append] at htemporary
    rcases List.suffix_or_suffix_of_suffix htemporary (List.suffix_append s.toList e.toList) with h | h
    · exact (hending e he).2.2 h
    · exact (hending e he).2.1 h

/-- How a commit ends, with what has become of each artifact. All are published but for those that exist
and may not be overwritten; or there is an error, and none is staged or published. Otherwise the commit is
broken off: a path can name nothing, or a temporary file cannot be removed because it is a directory or has
a name that is too long, or a target is a directory. -/
inductive CommitEnd (c : Config) (here : Place) (artifacts : List Artifact) (before after : FileSystem)
    (status : Artifact → Status) : Except FileFault (Except BuildError (List Path)) → Prop
  | written (h : ∀ a ∈ artifacts, status a = .published ∨
      status a = .untouched ∧ Skips c.overwrite.isTrue c.output here before a) :
      CommitEnd c here artifacts before after status
        (.ok (.ok ((artifacts.filter (status · = .published)).map (·.path))))
  | unwritable {a : Artifact} (fault : FileFault) (ha : a ∈ artifacts)
      (h : ∀ b ∈ artifacts, status b = .untouched ∨ status b = .removed) :
      CommitEnd c here artifacts before after status (.ok (.error (.unwritable a.path fault)))
  | nameless {a : Artifact} (ha : a ∈ artifacts) (hname : a.path.isNameable = false)
      (h : ∀ b ∈ artifacts, status b = .untouched ∨ status b = .staged) :
      CommitEnd c here artifacts before after status (.error .nameless)
  | untidied {a : Artifact} (fault : FileFault) (ha : a ∈ artifacts) (hblocked : Blocked here after a)
      (h : ∀ b ∈ artifacts, status b = .untouched ∨ status b = .removed) :
      CommitEnd c here artifacts before after status (.error fault)
  | unmoved {pre post : List Artifact} {a : Artifact} (hartifacts : artifacts = pre ++ a :: post)
      (hdir : after.node? (targetPlace here a) = some .directory) (ha : status a = .staged)
      (hpre : ∀ b ∈ pre, status b = .published ∨
        status b = .untouched ∧ Skips c.overwrite.isTrue c.output here before b)
      (hpost : ∀ b ∈ post, status b = .staged ∨
        status b = .untouched ∧ Skips c.overwrite.isTrue c.output here before b) :
      CommitEnd c here artifacts before after status (.error .isDirectory)

theorem remove_ne_ok_of_blocked (h : Blocked here fs a) :
    fs.remove here (temporaryPath a) ≠ .ok fs' := by
  intro hremove
  rw [remove] at hremove
  cases hplace : fs.place? here (temporaryPath a) with
  | error fault =>
    rw [hplace] at hremove
    cases hremove
  | ok place =>
    obtain ⟨hfit, -, rfl⟩ := place?_eq_ok_iff.1 hplace
    rcases h with hdir | hlong
    · rw [hplace] at hremove
      simp only [bind, Except.bind] at hremove
      rw [show fs.node? ((temporaryPath a).placeFrom here) = some .directory from hdir] at hremove
      cases hremove
    · exact hlong hfit

section Run

variable {w w₁ : Workspace} {staged : List Staged} {target : Path}

theorem run_commit_of_staged (h : w.run (stage c.overwrite.isTrue artifacts) = ((staged, none), w₁)) :
    w.run (commit c artifacts) =
      ((w₁.run (publish staged)).1.map .ok, (w₁.run (publish staged)).2) := by
  rw [commit, Workspace.run_bind, h]
  rfl

theorem run_commit_of_nameless
    (h : w.run (stage c.overwrite.isTrue artifacts) = ((staged, some (target, .nameless)), w₁)) :
    w.run (commit c artifacts) = (.error .nameless, w₁) := by
  rw [commit, Workspace.run_bind, h]
  rfl

theorem run_commit_of_stopped {fault : FileFault}
    (h : w.run (stage c.overwrite.isTrue artifacts) = ((staged, some (target, fault)), w₁))
    (hfault : fault ≠ .nameless) : w.run (commit c artifacts) =
      ((w₁.run (discard staged)).1.map fun () => .error (.unwritable target fault),
        (w₁.run (discard staged)).2) := by
  rw [commit, Workspace.run_bind, h]
  cases fault with
  | nameless => exact absurd rfl hfault
  | missing => rfl
  | notDirectory => rfl
  | isDirectory => rfl
  | alreadyExists => rfl
  | nameTooLong => rfl
  | other text => rfl

end Run

section End

variable {w w₁ : Workspace}

/-- When staging has gone through all artifacts, what is staged is moved. -/
theorem exists_commitEnd_of_done (hs : Siblings c.output artifacts) (hnodup : artifacts.Nodup)
    (hunder : Underway c.output w₁.here artifacts before status w₁.files)
    (hrun : w.run (stage c.overwrite.isTrue artifacts) = ((stagedOf status artifacts, none), w₁))
    (h : ∀ a ∈ artifacts, status a = .staged ∨
      status a = .untouched ∧ Skips c.overwrite.isTrue c.output w₁.here before a) :
    ∃ answer w' status', w.run (commit c artifacts) = (answer, w') ∧ w'.here = w₁.here ∧
      Leaves c.output w₁.here artifacts before status' w'.files ∧
      CommitEnd c w₁.here artifacts before w'.files status' answer := by
  obtain ⟨answer, w', status', hpublish, hhere, -, hleaves, hend⟩ :=
    exists_publish hs artifacts (fun _ ha => ha) hnodup w₁ hunder.toLeaves hunder.each_ready
  refine ⟨answer.map .ok, w', status', ?_, hhere, hleaves, ?_⟩
  · rw [run_commit_of_staged hrun, hpublish]
  · have hmoved : ∀ b ∈ artifacts, status' b = (status b).moved → status' b = .published ∨
        status' b = .untouched ∧ Skips c.overwrite.isTrue c.output w₁.here before b := by
      intro b hb hstatus
      rw [hstatus]
      rcases h b hb with hstaged | ⟨huntouched, hskips⟩
      · exact .inl (by rw [hstaged]; rfl)
      · exact .inr ⟨by rw [huntouched]; rfl, hskips⟩
    cases hend with
    | done hall => exact .written fun b hb => hmoved b hb (hall b hb)
    | @stopped pre post a hsplit hstaged hdir hpre hpost =>
      have hmem : ∀ b, b ∈ pre ∨ b ∈ a :: post → b ∈ artifacts := fun b hb => by
        rw [hsplit]
        exact List.mem_append.2 hb
      refine .unmoved hsplit hdir ((hpost a List.mem_cons_self).trans hstaged)
        (fun b hb => hmoved b (hmem b (.inl hb)) (hpre b hb)) fun b hb => ?_
      rw [hpost b (List.mem_cons_of_mem _ hb)]
      exact h b (hmem b (.inr (List.mem_cons_of_mem _ hb)))

/-- When staging has stopped, what is staged is taken back, and the temporary file at which it stopped
comes last. -/
theorem exists_commitEnd_of_stopped (hs : Siblings c.output artifacts) (hnodup : artifacts.Nodup)
    (hunder : Underway c.output w₁.here artifacts before status w₁.files) (ha : a ∈ artifacts)
    {fault : FileFault} (hname : fault = .nameless → a.path.isNameable = false) {last : List Staged}
    (hrun : w.run (stage c.overwrite.isTrue artifacts) =
      ((stagedOf status artifacts ++ last, some (a.path, fault)), w₁))
    (hlast : last = [] ∨
      last = [.beside a.path] ∧ status a = .untouched ∧ Blocked w₁.here w₁.files a) :
    ∃ answer w' status', w.run (commit c artifacts) = (answer, w') ∧ w'.here = w₁.here ∧
      Leaves c.output w₁.here artifacts before status' w'.files ∧
      CommitEnd c w₁.here artifacts before w'.files status' answer := by
  by_cases hfault : fault = .nameless
  · subst hfault
    exact ⟨_, w₁, status, run_commit_of_nameless hrun, rfl, hunder.toLeaves,
      .nameless ha (hname rfl) hunder.early⟩
  obtain ⟨w', status', hhere, hdiscard, htidied, -, hframe, hleaves⟩ :=
    exists_discard hs artifacts (fun _ ha => ha) hnodup w₁ hunder.toLeaves hunder.each_ready
  have hback : ∀ b ∈ artifacts, status' b = .untouched ∨ status' b = .removed := fun b hb => by
    rw [htidied b hb]
    rcases hunder.early b hb with h | h
    · exact .inl (by rw [h]; rfl)
    · exact .inr (by rw [h]; rfl)
  have hcommit := run_commit_of_stopped hrun hfault
  rw [hdiscard] at hcommit
  rcases hlast with rfl | ⟨rfl, hstatus, hblocked⟩
  · exact ⟨_, w', status', hcommit, hhere, hleaves, .unwritable fault ha hback⟩
  · have hstill : Blocked w₁.here w'.files a := by
      refine hblocked.imp_left fun hdir => ?_
      rw [hframe _ fun b hb hstaged heq => ?_, hdir]
      rw [hs.eq_of_temporaryPlace ha hb heq, hstaged] at hstatus
      cases hstatus
    rw [run_discard_cons, hhere] at hcommit
    cases hremove : w'.files.remove w₁.here (temporaryPath a) with
    | ok fs => exact absurd hremove (remove_ne_ok_of_blocked hstill)
    | error fault' =>
      rw [hremove] at hcommit
      cases fault' with
      | missing => exact ⟨_, w', status', hcommit, hhere, hleaves, .unwritable fault ha hback⟩
      | _ => exact ⟨_, w', status', hcommit, hhere, hleaves, .untidied _ ha hstill hback⟩

/-- Every commit of rendered files ends in one of these ways. -/
theorem exists_commitEnd (hrendered : ∀ a ∈ artifacts, a.IsRendered c)
    (hpaths : (artifacts.map (·.path)).Nodup) (hhere : w.files.node? w.here = some .directory) :
    ∃ answer w' status, w.run (commit c artifacts) = (answer, w') ∧ w'.here = w.here ∧
      Leaves c.output w.here artifacts w.files status w'.files ∧
      CommitEnd c w.here artifacts w.files w'.files status answer := by
  have hs := siblings_of_rendered hrendered hpaths
  have hnodup : artifacts.Nodup := .of_map _ hpaths
  have hstart : w.files.node? (c.output.start w.here) = some .directory := by
    unfold Path.start
    split
    · exact node?_nil
    · exact hhere
  obtain ⟨answer, w₁, status, hrun, hhere₁, -, hunder, hend⟩ :=
    exists_staging hs c.overwrite.isTrue artifacts (fun _ ha => ha) hnodup w hstart
      (underway_untouched c.output w.here artifacts w.files) fun _ _ => rfl
  rw [← hhere₁] at hunder hend ⊢
  cases hend with
  | done h => exact exists_commitEnd_of_done hs hnodup hunder hrun h
  | stopped ha hname =>
    rw [← List.append_nil (stagedOf status artifacts)] at hrun
    exact exists_commitEnd_of_stopped hs hnodup hunder ha hname hrun (.inl rfl)
  | blocked ha hname hstatus hblocked =>
    exact exists_commitEnd_of_stopped hs hnodup hunder ha hname hrun (.inr ⟨rfl, hstatus, hblocked⟩)

end End

/-- Nothing is in the way of an artifact: its temporary file can be named, and its two places are no
directories and do not become any when the output directory is made. -/
structure IsFree (dir : Path) (here : Place) (fs : FileSystem) (a : Artifact) : Prop where
  fit : (temporaryPath a).IsFit
  target : fs.node? (targetPlace here a) ≠ some .directory ∧ targetPlace here a ∉ inside dir here
  temporary : fs.node? (temporaryPlace here a) ≠ some .directory ∧ temporaryPlace here a ∉ inside dir here

theorem node?_of_stays {q : Place} (h : Stays (inside dir here) before fs q)
    (hfree : before.node? q ≠ some .directory ∧ q ∉ inside dir here) : fs.node? q ≠ some .directory := by
  rcases h with hsame | ⟨hmem, -⟩
  · rw [hsame]
    exact hfree.1
  · exact absurd hmem hfree.2

/-- If nothing is in the way of any artifact, a commit is not broken off. -/
theorem CommitEnd.exists_ok {answer : Except FileFault (Except BuildError (List Path))}
    (h : CommitEnd c here artifacts before fs status answer)
    (hs : Siblings c.output artifacts) (hleaves : Leaves c.output here artifacts before status fs)
    (hfree : ∀ a ∈ artifacts, IsFree c.output here before a) : ∃ result, answer = .ok result := by
  cases h with
  | written h => exact ⟨_, rfl⟩
  | unwritable fault ha h => exact ⟨_, rfl⟩
  | nameless ha hname h =>
    have hfit := (hs.isFit ha (hfree _ ha).fit).nameable
    rw [hname] at hfit
    cases hfit
  | @untidied a fault ha hblocked h =>
    rcases hblocked with hdir | hlong
    · have hholds := hleaves.each a ha
      rcases h a ha with hstatus | hstatus
      · rw [hstatus] at hholds
        exact absurd hdir (node?_of_stays hholds.2 (hfree a ha).temporary)
      · rw [hstatus] at hholds
        rw [hholds.2] at hdir
        cases hdir
    · exact absurd (hfree a ha).fit hlong
  | @unmoved pre post a hartifacts hdir hstatus hpre hpost =>
    have ha : a ∈ artifacts := by
      rw [hartifacts]
      exact List.mem_append_right _ List.mem_cons_self
    have hholds := hleaves.each a ha
    rw [hstatus] at hholds
    exact absurd hdir (node?_of_stays hholds.1 (hfree a ha).target)

/-- Committing rendered files is all or nothing as long as nothing is in their way: they are written, or
there is an error and they are as they were. What is left of them otherwise is told by `CommitEnd`. -/
theorem commit_ends {w : Workspace} (hrendered : ∀ a ∈ artifacts, a.IsRendered c)
    (hpaths : (artifacts.map (·.path)).Nodup) (hhere : w.files.node? w.here = some .directory) :
    ∃ answer w' status, w.run (commit c artifacts) = (answer, w') ∧ w'.here = w.here ∧
      Leaves c.output w.here artifacts w.files status w'.files ∧
      CommitEnd c w.here artifacts w.files w'.files status answer ∧
      ((∀ a ∈ artifacts, IsFree c.output w.here w.files a) → ∃ result, answer = .ok result) := by
  obtain ⟨answer, w', status, hrun, hhere', hleaves, hend⟩ := exists_commitEnd hrendered hpaths hhere
  exact ⟨answer, w', status, hrun, hhere', hleaves, hend,
    hend.exists_ok (siblings_of_rendered hrendered hpaths) hleaves⟩

/-- Three artifacts of a function in an empty file system: nothing is in the way, and the commit is not
broken off. -/
theorem commit_ends_of_three :
    ∃ (c : Config) (f : ExpandedFunction) (artifacts : List Artifact) (w w' : Workspace)
      (status : Artifact → Status), Artifact.all c f = .ok artifacts ∧ artifacts.length = 3 ∧
      (∀ a ∈ artifacts, a.IsRendered c) ∧ (artifacts.map (·.path)).Nodup ∧
      w.files.node? w.here = some .directory ∧ (∀ a ∈ artifacts, IsFree c.output w.here w.files a) ∧
      Leaves c.output w.here artifacts w.files status w'.files ∧
      ∃ result, w.run (commit c artifacts) = (.ok result, w') := by
  obtain ⟨c, hc⟩ : ∃ c : Config, c = { projectRoot := ⟨.relative, []⟩, outputDir := ⟨.relative, ["out"]⟩ } :=
    ⟨_, rfl⟩
  obtain ⟨f, hf⟩ : ∃ f : ExpandedFunction, f = ⟨⟨"f", [], "", none, "", "", none, ⟨none, 1, 1⟩, []⟩,
    ⟨.text "f", [], [⟨0, [], [], .text "npe_f__generic"⟩], [], []⟩⟩ := ⟨_, rfl⟩
  obtain ⟨paths, hpaths⟩ : ∃ paths : List Path, paths = [⟨.relative, ["out", "f.npe.cpp"]⟩,
    ⟨.relative, ["out", "f.pyi"]⟩, ⟨.relative, ["out", "f.npe.json"]⟩] := ⟨_, rfl⟩
  obtain ⟨hstem, hsome, hfree⟩ : '/' ∉ f.declaration.stem.toList ∧
      (Artifact.all c f).toOption.map (·.map (·.path)) = some paths ∧
      ∀ p ∈ paths, ((Staged.beside p).temporary.isNameable = true ∧
          (Staged.beside p).temporary.toString.utf8ByteSize ≤ longestPath ∧
          ∀ name ∈ (Staged.beside p).temporary.parts, name = ".." ∨ name.utf8ByteSize ≤ longestName) ∧
        ∀ q ∈ [p.placeFrom [], (Staged.beside p).temporary.placeFrom []],
          node? {} q ≠ some .directory ∧ q ∉ inside c.output [] := by
    rw [hc, hf, hpaths]
    decide +kernel
  cases hall : Artifact.all c f with
  | error e => simp [hall, Except.toOption] at hsome
  | ok artifacts =>
    rw [hall] at hsome
    have hsame : artifacts.map (·.path) = paths := Option.some.inj hsome
    have hrendered : ∀ a ∈ artifacts, a.IsRendered c := fun a ha => .ofFunction hall ha hstem
    have hfreeAll : ∀ a ∈ artifacts, IsFree c.output [] {} a := fun a ha => by
      obtain ⟨⟨hname, hshort, hnames⟩, hplaces⟩ := hfree a.path (hsame ▸ List.mem_map_of_mem ha)
      obtain ⟨htarget, htemporary, -⟩ := List.forall_mem_cons.1 hplaces |>.imp_right List.forall_mem_cons.1
      exact ⟨⟨hname, hshort, hnames⟩, htarget, htemporary⟩
    have hnodup := Artifact.nodup_paths_of_all hall
    obtain ⟨answer, w', status, hrun, -, hleaves, -, hok⟩ :=
      commit_ends (w := { files := {}, here := [] }) hrendered hnodup rfl
    obtain ⟨result, rfl⟩ := hok hfreeAll
    have hlength := congrArg List.length hsame
    rw [List.length_map, hpaths] at hlength
    exact ⟨c, f, artifacts, _, w', status, hall, hlength, hrendered, hnodup, rfl, hfreeAll, hleaves, result,
      hrun⟩

/-- Where a stub should go there is a directory: the commit is broken off, the native source has been
replaced, and two temporary files are left. -/
theorem commit_broken_off :
    ∃ (c : Config) (f : ExpandedFunction) (artifacts : List Artifact) (w w' : Workspace),
      Artifact.all c f = .ok artifacts ∧ (∀ a ∈ artifacts, a.IsRendered c) ∧
      (artifacts.map (·.path)).Nodup ∧ w.files.node? w.here = some .directory ∧
      w.run (commit c artifacts) = (.error .isDirectory, w') ∧
      artifacts.map (fun a => decide (w'.files.node? (targetPlace w.here a) =
        w.files.node? (targetPlace w.here a))) = [false, true, true] ∧
      artifacts.map (fun a => (w'.files.node? (temporaryPlace w.here a)).isSome) = [false, true, true] ∧
      artifacts.map (fun a => w.files.node? (temporaryPlace w.here a)) = [none, none, none] := by
  obtain ⟨c, hc⟩ : ∃ c : Config, c = { projectRoot := ⟨.relative, []⟩, outputDir := ⟨.relative, ["out"]⟩ } :=
    ⟨_, rfl⟩
  obtain ⟨f, hf⟩ : ∃ f : ExpandedFunction, f = ⟨⟨"f", [], "", none, "", "", none, ⟨none, 1, 1⟩, []⟩,
    ⟨.text "f", [], [⟨0, [], [], .text "npe_f__generic"⟩], [], []⟩⟩ := ⟨_, rfl⟩
  obtain ⟨w, hw⟩ : ∃ w : Workspace, w = { here := [], files := ⟨[(["out"], .directory),
    (["out", "f.npe.cpp"], .file ⟨#[]⟩), (["out", "f.pyi"], .directory)]⟩ } := ⟨_, rfl⟩
  have hstem : '/' ∉ f.declaration.stem.toList := by
    rw [hf]
    decide
  have hvalue : (Artifact.all c f).toOption.map (fun artifacts =>
      ((match (w.run (commit c artifacts)).1 with | .error fault => some fault | .ok _ => none),
      artifacts.map (fun a => decide ((w.run (commit c artifacts)).2.files.node? (targetPlace w.here a) =
        w.files.node? (targetPlace w.here a))),
      artifacts.map (fun a =>
        ((w.run (commit c artifacts)).2.files.node? (temporaryPlace w.here a)).isSome),
      artifacts.map (fun a => w.files.node? (temporaryPlace w.here a)))) =
      some (some .isDirectory, [false, true, true], [false, true, true], [none, none, none]) := by
    rw [hc, hf, hw]
    decide +kernel
  cases hall : Artifact.all c f with
  | error e => simp [hall, Except.toOption] at hvalue
  | ok artifacts =>
    rw [hall] at hvalue
    rcases hrun : w.run (commit c artifacts) with ⟨fault | result, w'⟩
    · rw [Except.toOption, Option.map_some, hrun] at hvalue
      simp only [Option.some.injEq, Prod.mk.injEq] at hvalue
      obtain ⟨rfl, htargets, htemporaries, hbefore⟩ := hvalue
      exact ⟨c, f, artifacts, w, w', hall, fun a ha => .ofFunction hall ha hstem,
        Artifact.nodup_paths_of_all hall, by rw [hw]; rfl, hrun, htargets, htemporaries, hbefore⟩
    · rw [Except.toOption, Option.map_some, hrun] at hvalue
      simp at hvalue

end Monomorph.Build
