import Monomorph.Proofs.DispatchTable.Manifest

/-!
Tables loaded from a manifest, written, and loaded again. A load takes tags as they are spelled if they
name a numeric type, and without needless blanks otherwise. So a tag that names a numeric type but for
its blanks is a host type at the first load and a numeric type at the second. Nothing else is lost, and
from the second load on nothing changes any more.
-/

namespace Monomorph

open Text

/-! ### Tags -/

namespace ConcreteType

theorem isHost_spelling : ∀ e ∈ spellings, e.2.isHost = false := by decide

theorem squeeze_spelling : ∀ e ∈ spellings, squeeze e.1 = e.1 := by decide

/-- A text is a numeric type under its own spelling, and a host type otherwise. -/
theorem ofTag_cases (s : String) :
    (∃ e ∈ spellings, e.1 = s ∧ ofTag s = e.2) ∨
      s ∉ spellings.map (·.1) ∧ ofTag s = .host (squeeze s) := by
  cases h : spellings.lookup s with
  | some type =>
    obtain ⟨l, r, hsplit, -⟩ := List.lookup_eq_some_iff.1 h
    have he : (s, type) ∈ spellings := by simp [hsplit]
    exact .inl ⟨_, he, rfl, by rw [ofTag, h, Option.getD_some]⟩
  | none =>
    exact .inr ⟨Record.lookup_eq_none_iff.1 h, by rw [ofTag, h, Option.getD_none, ofHost]⟩

/-- A host type is found again under its text unless the text spells a numeric type, or has blanks that
are not needed. -/
theorem isTagged_host_iff {text : String} :
    (host text).IsTagged ↔ text ∉ spellings.map (·.1) ∧ squeeze text = text := by
  rcases ofTag_cases text with ⟨e, he, rfl, hnumeric⟩ | ⟨hnone, hhost⟩
  · refine iff_of_false (fun h => ?_) fun h => h.1 (List.mem_map_of_mem he)
    have hsame : e.2 = host e.1 := hnumeric.symm.trans h
    exact absurd (isHost_spelling e he) (by simp [hsame, isHost])
  · rw [IsTagged, tag, hhost, host.injEq, and_iff_right hnone]

/-- The type that a tag names is found again under its own tag, unless the tag names a numeric type but
for its blanks. -/
theorem isTagged_ofTag_iff {s : String} :
    (ofTag s).IsTagged ↔ (squeeze s ∈ spellings.map (·.1) → squeeze s = s) := by
  rcases ofTag_cases s with ⟨e, he, rfl, hnumeric⟩ | ⟨hnone, hhost⟩
  · rw [hnumeric]
    exact iff_of_true (isTagged_of_numeric (isHost_spelling e he)) fun _ => squeeze_spelling e he
  · rw [hhost, isTagged_host_iff, squeeze_squeeze, and_iff_left rfl]
    exact ⟨fun h hs => absurd hs h, fun h hs => hnone (h hs ▸ hs)⟩

/-- The type that the tag of such a type names is found again. -/
theorem isTagged_ofTag_tag (s : String) : (ofTag (ofTag s).tag).IsTagged := by
  rcases ofTag_cases s with ⟨e, he, rfl, hnumeric⟩ | ⟨-, hhost⟩
  · have htagged : (ofTag e.1).IsTagged := hnumeric ▸ isTagged_of_numeric (isHost_spelling e he)
    rw [htagged]
    exact htagged
  · rw [hhost, tag, isTagged_ofTag_iff, squeeze_squeeze]
    exact fun _ => rfl

end ConcreteType

/-! ### Labels and positions -/

theorem Label.isKept_ofJson (v : Json) : (Label.ofJson v).IsKept := by
  cases v <;> rfl

theorem Position.ofJson_toJson_ofJson (v : Json) :
    Position.ofJson (Position.ofJson v).toJson = Position.ofJson v := by
  cases v <;> rfl

namespace DispatchTable

theorem defaultOfJson_defaultJson_defaultOfJson (v : Json) :
    defaultOfJson (defaultJson (defaultOfJson v)) = defaultOfJson v := by
  cases v <;> rfl

/-! ### What a load gives -/

theorem exists_of_mem_right {α β : Type} {r : α → β → Prop} {xs : List α} {ys : List β}
    (h : List.Forall₂ r xs ys) {y : β} (hy : y ∈ ys) : ∃ x, r x y := by
  obtain ⟨i, hi, rfl⟩ := List.getElem_of_mem hy
  exact ⟨_, h.get (h.length_eq ▸ hi) hi⟩

variable {t : DispatchTable} {data : Json}

/-- A type that a tag gives. -/
def IsNamed (type : ConcreteType) : Prop := ∃ s, type = .ofTag s

theorem isNamed_of_requireType {v : Json} {type : ConcreteType} (h : requireType v = .ok type) :
    IsNamed type := by
  cases v <;> cases h <;> exact ⟨_, rfl⟩

/-- The combinations of a manifest are numbered from where they start, all with the same names. -/
theorem of_readCombinations {names : List Label} {k : Nat} {entries : List Json}
    {cs : List Combination} (h : readCombinations names k entries = .ok cs) :
    (∀ (i : Nat) (c : Combination), cs[i]? = some c → c.index = k + i ∧ c.names = names) ∧
      ∀ c ∈ cs, c.identifier.IsKept ∧ ∀ type ∈ c.types, IsNamed type := by
  induction entries generalizing k cs with
  | nil =>
    cases h
    simp
  | cons entry rest ih =>
    simp only [readCombinations, bind_eq_ok_iff] at h
    obtain ⟨field, -, tags, -, types, htypes, identifier, -, cs, hcs, h⟩ := h
    cases h
    obtain ⟨hnumbered, hrest⟩ := ih hcs
    refine ⟨fun i c hc => ?_, List.forall_mem_cons.2 ⟨⟨Label.isKept_ofJson identifier, ?_⟩, hrest⟩⟩
    · cases i with
      | zero =>
        cases hc
        exact ⟨rfl, rfl⟩
      | succ i =>
        obtain ⟨hindex, hnames⟩ := hnumbered i c (by simpa using hc)
        exact ⟨by omega, hnames⟩
    · intro type htype
      obtain ⟨v, hv⟩ := exists_of_mem_right (forall₂_of_mapM htypes) htype
      exact isNamed_of_requireType hv

/-- Whatever a manifest holds, a table that is loaded from it is written in full but for its types, and
these are named by tags. -/
theorem of_ofManifest (h : ofManifest data = .ok t) :
    t.IsLoaded ∧ ∀ c ∈ t.combinations, ∀ type ∈ c.types, IsNamed type := by
  simp only [ofManifest, bind_eq_ok_iff] at h
  obtain ⟨_, -, arguments, -, names, hnames, _, -, entries, -, combinations, hcombinations, function,
    -, _, -, positions, -, defaults, hdefaults, h⟩ := h
  cases h
  obtain ⟨hnumbered, hcs⟩ := of_readCombinations hcombinations
  have hpadded : defaults.length = names.length :=
    (forall₂_of_mapM hdefaults).length_eq.symm.trans (forall₂_of_mapM hnames).length_eq
  refine ⟨⟨Label.isKept_ofJson function, ?_, ?_, ?_, ?_, ?_, fun c hc => (hcs c hc).1⟩,
    fun c hc => (hcs c hc).2⟩
  · exact List.forall_mem_map.2 fun v _ => Label.isKept_ofJson v
  · intro o ho
    obtain ⟨v, hv⟩ := exists_of_mem_right (forall₂_of_mapM hdefaults) ho
    cases v <;> cases hv
    exact defaultOfJson_defaultJson_defaultOfJson _
  · rw [List.length_map, hpadded]
  · exact List.forall_mem_map.2 fun v _ => Position.ofJson_toJson_ofJson v
  · simpa using hnumbered

/-! ### Look-up -/

/-- The types of some combinations that look-ups compare are found again under their tags. -/
def AreTaggedAt (ps : List Position) (cs : List Combination) : Prop :=
  ∀ c ∈ cs, ∀ p ∈ ps, ∀ type, p.elementIn c.types = .ok type → type.IsTagged

theorem elementIn_retagged (c : Combination) (p : Position) :
    p.elementIn c.retagged.types = (p.elementIn c.types).map fun type => .ofTag type.tag := by
  rw [Combination.retagged]
  unfold Position.elementIn atPosition?
  rw [List.length_map]
  cases p.int? with
  | none => rfl
  | some i =>
    cases hplace : placeIn? c.types.length i with
    | none => simp [hplace, Except.map]
    | some n => cases hn : c.types[n]? <;> simp [hplace, hn, Except.map]

theorem agrees_retagged {c : Combination} {ps : List Position}
    (h : ∀ p ∈ ps, ∀ type, p.elementIn c.types = .ok type → type.IsTagged)
    (tags : List (Option String)) : c.retagged.agrees tags ps = c.agrees tags ps := by
  induction ps with
  | nil => rfl
  | cons p ps ih =>
    obtain ⟨hp, hps⟩ := List.forall_mem_cons.1 h
    rw [Combination.agrees, Combination.agrees, elementIn_retagged]
    cases htype : p.elementIn c.types with
    | error fault => rfl
    | ok type =>
      have htagged : ConcreteType.ofTag type.tag = type := hp type htype
      simp only [Except.map, htagged, bind, Except.bind, ih hps]

theorem firstAgreeing_retagged {ps : List Position} {cs : List Combination} (h : AreTaggedAt ps cs)
    (tags : List (Option String)) :
    firstAgreeing tags ps (cs.map (·.retagged)) =
      (firstAgreeing tags ps cs).map (Option.map (·.retagged)) := by
  induction cs with
  | nil => rfl
  | cons c cs ih =>
    obtain ⟨hc, hcs⟩ := List.forall_mem_cons.1 h
    rw [List.map_cons, firstAgreeing, firstAgreeing, agrees_retagged hc, ih hcs]
    cases c.agrees tags ps with
    | error fault => rfl
    | ok fits => cases fits <;> rfl

/-! ### The second load -/

theorem IsLoaded.retagged (h : t.IsLoaded) : t.retagged.IsLoaded where
  function := h.function
  names := h.names
  defaults := h.defaults
  padded := h.padded
  positions := h.positions
  numbered i c hc := by
    obtain ⟨c', hc', rfl⟩ : ∃ c', t.combinations[i]? = some c' ∧ c'.retagged = c := by
      simpa [DispatchTable.retagged] using hc
    exact h.numbered i c' hc'
  identifiers := List.forall_mem_map.2 h.identifiers

/-- Types that tags name are found again unless a host text among them spells a numeric type. -/
theorem forall_isTagged_iff {types : List ConcreteType} (h : ∀ type ∈ types, IsNamed type) :
    (∀ type ∈ types, type.IsTagged) ↔
      ∀ text, .host text ∈ types → text ∉ ConcreteType.spellings.map (·.1) := by
  constructor
  · intro htagged text htext
    exact (ConcreteType.isTagged_host_iff.1 (htagged _ htext)).1
  · intro hhost type htype
    obtain ⟨s, rfl⟩ := h type htype
    rcases ConcreteType.ofTag_cases s with ⟨e, he, -, hnumeric⟩ | ⟨-, heq⟩
    · exact hnumeric ▸ ConcreteType.isTagged_of_numeric (ConcreteType.isHost_spelling e he)
    · rw [heq] at htype ⊢
      exact ConcreteType.isTagged_host_iff.2 ⟨hhost _ htype, squeeze_squeeze s⟩

/-- The type of a tag is found again under its own tag exactly if the tag does not name a numeric type
with blanks around it. So whatever manifest a table is loaded from, a second load gives the table with
the types found under the tags of its types: the same table if no host text spells a numeric type, and
one with the same look-ups if none does at a dispatched position. What the second load gives, every
further load gives. The manifest may go through its text if the labels are texts and the positions
integers, none of them too long for the reader. -/
theorem reload_of_ofManifest (s : String) (data : Json) (t : DispatchTable) :
    ((ConcreteType.ofTag s).IsTagged ↔
      (squeeze s ∈ ConcreteType.spellings.map (·.1) → squeeze s = s)) ∧
    (ofManifest data = .ok t →
      ofManifest t.toManifest = .ok t.retagged ∧
      (t.retagged = t ↔ ∀ c ∈ t.combinations, ∀ text, .host text ∈ c.types →
        text ∉ ConcreteType.spellings.map (·.1)) ∧
      (AreTaggedAt t.positions t.combinations → ∀ tags,
        t.retagged.lookup tags = (t.lookup tags).map (Option.map (·.retagged))) ∧
      ofManifest t.retagged.toManifest = .ok t.retagged ∧
      (t.IsTextual → (∀ i : Int, .index i ∈ t.positions → i.natAbs < 10 ^ Digits.most) →
        ofJson t.toJson = .ok t.retagged)) := by
  refine ⟨ConcreteType.isTagged_ofTag_iff, fun h => ?_⟩
  obtain ⟨hloaded, hnamed⟩ := of_ofManifest h
  have hreload := hloaded.ofManifest_toManifest
  refine ⟨hreload, ?_, firstAgreeing_retagged, ?_, fun htext hsmall => ?_⟩
  · rw [retagged_eq_self_iff]
    exact forall₂_congr fun c hc => forall_isTagged_iff (hnamed c hc)
  · -- a type that a tag names is found again after one load, so a table is after two
    rw [hloaded.retagged.ofManifest_toManifest, retagged_eq_self_iff.2]
    refine List.forall_mem_map.2 fun c hc => List.forall_mem_map.2 fun type htype => ?_
    obtain ⟨s, rfl⟩ := hnamed c hc type htype
    exact ConcreteType.isTagged_ofTag_tag s
  · rw [htext.ofJson_toJson hloaded.padded hsmall, hreload]

/-- A second spelling of a numeric type, and a host type with needless blanks. -/
theorem reload_of_aliases :
    ∃ data t, data = .obj [
        ("function", .str "f"), ("dispatch_positions", .arr [.int 0]),
        ("arguments", .arr [.obj [("name", .str "x")], .obj [("name", .str "n")]]),
        ("combinations", .arr [.obj [("identifier", .str "f__a"),
          ("types", .arr [.str "dense_float", .str " unsigned  int"])]])] ∧
      ofManifest data = .ok t ∧ t.accepted = [["dense_f32", "unsigned int"]] ∧
      ofManifest t.toManifest = .ok t ∧ ofJson t.toJson = .ok t := by
  obtain ⟨data, hdata⟩ : ∃ data, data = Json.obj [
      ("function", .str "f"), ("dispatch_positions", .arr [.int 0]),
      ("arguments", .arr [.obj [("name", .str "x")], .obj [("name", .str "n")]]),
      ("combinations", .arr [.obj [("identifier", .str "f__a"),
        ("types", .arr [.str "dense_float", .str " unsigned  int"])]])] := ⟨_, rfl⟩
  have hload : ofManifest data = .ok ⟨.text "f", [.text "x", .text "n"],
      [⟨0, [.text "x", .text "n"], [.dense .float32, .host "unsigned int"], .text "f__a"⟩],
      [.index 0], [none, none]⟩ := by
    rw [hdata]
    decide +kernel
  obtain ⟨hreload, hsame, -, -, htext⟩ := (reload_of_ofManifest "dense_float" data _).2 hload
  have hhosts := hsame.2 fun c hc text htype => by
    obtain rfl := List.mem_singleton.1 hc
    obtain rfl : text = "unsigned int" := by simpa using htype
    decide
  rw [hhosts] at hreload htext
  refine ⟨data, _, hdata, hload, by decide, hreload, htext ⟨⟨_, rfl⟩, ?_, ?_, ?_, ?_⟩ ?_⟩
  · exact List.forall_mem_cons.2 ⟨⟨_, rfl⟩, List.forall_mem_singleton.2 ⟨_, rfl⟩⟩
  · simp
  · exact List.forall_mem_singleton.2 ⟨0, rfl⟩
  · exact List.forall_mem_singleton.2 ⟨_, rfl⟩
  · intro i hi
    obtain rfl : i = 0 := by simpa using hi
    decide +kernel

/-- A blank before a tag that names a numeric type: the first load gives a host type, and the second
the numeric type, under whose own tag the combination is found from then on. -/
theorem reload_changes_of_blank :
    ConcreteType.ofTag " dense_float" = .host "dense_float" ∧
      ConcreteType.ofTag (ConcreteType.ofTag " dense_float").tag = .dense .float32 ∧
      ∃ data t t', data = .obj [
          ("function", .str "f"), ("dispatch_positions", .arr [.int 0]),
          ("arguments", .arr [.obj [("name", .str "x"), ("default", .null)]]),
          ("combinations", .arr [.obj [("identifier", .str "f__a"),
            ("types", .arr [.str " dense_float"])]])] ∧
        ofManifest data = .ok t ∧ ofManifest t.toManifest = .ok t' ∧ t' ≠ t ∧
        t.lookup [some "dense_float"] = .ok t.combinations.head? ∧
        t'.lookup [some "dense_float"] = .ok none := by
  refine ⟨by decide, by decide, _, ⟨.text "f", [.text "x"],
    [⟨0, [.text "x"], [.host "dense_float"], .text "f__a"⟩], [.index 0], [none]⟩,
    ⟨.text "f", [.text "x"], [⟨0, [.text "x"], [.dense .float32], .text "f__a"⟩], [.index 0], [none]⟩,
    rfl, ?_, ?_, by decide, by decide, by decide⟩
  · decide +kernel
  · decide +kernel

end DispatchTable

end Monomorph
