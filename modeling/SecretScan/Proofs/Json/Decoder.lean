import SecretScan.Json.Decoder
import SecretScan.Proofs.Record

/-!
# What JSON values are taken for

Of each way to take a value apart, which values it takes and what it makes of them. A record is
taken from an object, whose members may come in any order but only once each, or from an array,
whose items are members without their names (`Members`); either way its members are put in one after
the other (`asRecord_eq_ok_iff`). Where a value is cut off or broken nothing is made of it.
-/

namespace SecretScan.Json

/-! ### Single values -/

theorem asString_eq_ok_iff {v : Json} {s : String} : v.asString = .ok s ↔ v = .string s := by
  cases v <;> simp [asString]

theorem asBool_eq_ok_iff {v : Json} {b : Bool} : v.asBool = .ok b ↔ v = .bool b := by
  cases v <;> simp [asBool]

theorem asNumber_eq_ok_iff {v : Json} {x : Binary64} :
    v.asNumber = .ok x ↔ ∃ n, v = .number n ∧ x = n.toBinary64 := by
  cases v <;> simp [asNumber, eq_comm]

theorem asSize_eq_ok_iff {v : Json} {k : ℕ} : v.asSize = .ok k ↔ v = .number (.natural k) := by
  cases v with
  | number n => cases n <;> simp [asSize]
  | _ => simp [asSize]

/-- Nothing is taken for nothing, and anything else for a value. -/
theorem asOption_eq_ok_iff {α : Type} {take : Json → Except JsonFault α} {v : Json}
    {b : Option α} :
    v.asOption take = .ok b ↔ (v = .null ∧ b = none) ∨
      ∃ a, v ≠ .null ∧ take v = .ok a ∧ b = some a := by
  by_cases hv : v = .null
  · subst hv
    simp [asOption, eq_comm]
  · have hsome : v.asOption take = some <$> take v := by
      cases v <;> first | rfl | exact absurd rfl hv
    rw [hsome, map_eq_ok_iff]
    simp [hv, eq_comm]

/-! ### Texts in arrays and objects -/

theorem mapM_asString_eq_ok_iff {vs : List Json} {ss : List String} :
    vs.mapM asString = .ok ss ↔ vs = ss.map .string := by
  simp only [mapM_eq_ok_iff, asString_eq_ok_iff]
  rw [← List.forall₂_map_right_iff, List.forall₂_eq_eq_eq]

/-- There is no fault in texts. -/
theorem faultIn?_map_string (ss : List String) : faultIn? (ss.map .string) = none := by
  induction ss with
  | nil => simp [faultIn?]
  | cons s ss ih => simp [faultIn?, fault?, ih]

theorem asOneOrMany_eq_ok_iff {v : Json} {b : OneOrMany String} :
    v.asOneOrMany = .ok b ↔ (∃ s, v = .string s ∧ b = .one s) ∨
      ∃ ss : List String, v = .array (ss.map .string) none ∧ b = .many ss := by
  cases v with
  | string s => simp [asOneOrMany, fault?, eq_comm]
  | array vs cut =>
    simp only [asOneOrMany, reduceCtorEq, false_and, exists_false, false_or]
    constructor
    · intro h
      rcases hfault : fault? (.array vs cut) with - | fault
      · rw [hfault] at h
        obtain ⟨ss, hss, rfl⟩ := map_eq_ok_iff.mp h
        rw [fault?, Option.or_eq_none_iff] at hfault
        rw [mapM_asString_eq_ok_iff.mp hss, hfault.2]
        exact ⟨ss, rfl, rfl⟩
      · rw [hfault] at h
        cases h
    · rintro ⟨ss, hv, rfl⟩
      obtain ⟨rfl, rfl⟩ := Json.array.inj hv
      have hfault : fault? (.array (ss.map .string) none) = none := by
        rw [fault?, faultIn?_map_string, Option.or_none]
      rw [hfault]
      exact map_eq_ok_iff.mpr ⟨ss, mapM_asString_eq_ok_iff.mpr rfl, rfl⟩
  | object ms cut =>
    rcases hfault : fault? (.object ms cut) with - | fault <;> simp [asOneOrMany, hfault]
  | null => simp [asOneOrMany, fault?]
  | bool b => simp [asOneOrMany, fault?]
  | number n => simp [asOneOrMany, fault?]
  | broken fault => simp [asOneOrMany, fault?]

/-- Texts under names. -/
theorem asMembers_asString_eq_ok_iff {v : Json} {es : List (String × String)} :
    v.asMembers asString = .ok es ↔ v = .object (es.map fun e ↦ (e.1, .string e.2)) none := by
  have hmembers {ms : List (String × Json)} :
      (ms.mapM fun m ↦ do return (m.1, ← m.2.asString)) = .ok es ↔
        ms = es.map fun e ↦ (e.1, .string e.2) := by
    have hmember (m : String × Json) (e : String × String) :
        (do return (m.1, ← m.2.asString) : Except JsonFault (String × String)) = .ok e ↔
          m = (e.1, .string e.2) := by
      obtain ⟨name, v⟩ := m
      obtain ⟨name', s⟩ := e
      simp only [bind_eq_ok_iff, asString_eq_ok_iff, Prod.mk.injEq]
      constructor
      · rintro ⟨s, rfl, hpure⟩
        obtain ⟨rfl, rfl⟩ := Prod.mk.inj (Except.ok.inj hpure)
        exact ⟨rfl, rfl⟩
      · rintro ⟨rfl, rfl⟩
        exact ⟨s, rfl, rfl⟩
    simp only [mapM_eq_ok_iff, hmember]
    rw [← List.forall₂_map_right_iff, List.forall₂_eq_eq_eq]
  cases v with
  | object ms cut =>
    rw [asMembers, bind_eq_ok_iff]
    constructor
    · rintro ⟨es', hes, hcut⟩
      rcases cut with - | fault
      · obtain rfl := Except.ok.inj hcut
        rw [hmembers.mp hes]
      · cases hcut
    · intro hv
      obtain ⟨hms, rfl⟩ := Json.object.inj hv
      exact ⟨es, hmembers.mpr hms, rfl⟩
  | _ => simp [asMembers]

/-! ### Records -/

/-- The members of a value that is taken for a record of fields with the given names. -/
inductive Members (names : List String) : Json → List (String × Json) → Prop where
  /-- An object has members, none of which comes twice or has a name of its own. -/
  | object {ms : List (String × Json)} (hnodup : (ms.map Prod.fst).Nodup)
      (hnames : ∀ m ∈ ms, m.1 ∈ names) : Members names (.object ms none) ms
  /-- The items of an array belong to the first fields in order, and there are not too many. -/
  | array {vs : List Json} (hlength : vs.length ≤ names.length) :
      Members names (.array vs none) (names.zip vs)

theorem map_fst_zip_sublist (names : List String) (vs : List Json) :
    ((names.zip vs).map Prod.fst).Sublist names := by
  induction names generalizing vs with
  | nil => exact List.Sublist.refl []
  | cons name names ih =>
    cases vs with
    | nil => exact List.nil_sublist _
    | cons v vs => exact (ih vs).cons_cons name

/-- No name comes twice. -/
theorem Members.nodup {names : List String} (hnodup : names.Nodup) {v : Json}
    {ms : List (String × Json)} (h : Members names v ms) : (ms.map Prod.fst).Nodup := by
  cases h with
  | object h => exact h
  | array => exact hnodup.sublist (map_fst_zip_sublist names _)

theorem Members.mem_names {names : List String} {v : Json} {ms : List (String × Json)}
    (h : Members names v ms) {m : String × Json} (hm : m ∈ ms) : m.1 ∈ names := by
  cases h with
  | object _ h => exact h m hm
  | array => exact (List.of_mem_zip hm).1

/-- Members are determined by their value. -/
theorem Members.unique {names : List String} {v : Json} {ms ms' : List (String × Json)}
    (h : Members names v ms) (h' : Members names v ms') : ms = ms' := by
  cases h <;> cases h' <;> rfl

variable {σ : Type} {fields : List (Field σ)} {s s' : σ}

/-- What a field of a record does with the value of a member. -/
def Field.Sets (fields : List (Field σ)) (name : String) (v : Json) (s s' : σ) : Prop :=
  ∃ f ∈ fields, f.name = name ∧ f.put v s = .ok s'

/-- A field is found by its name. -/
theorem find?_eq_some_iff (hfields : (fields.map Field.name).Nodup) {name : String}
    {f : Field σ} :
    (fields.find? fun f ↦ f.name == name) = some f ↔ f ∈ fields ∧ f.name = name := by
  constructor
  · intro h
    exact ⟨List.mem_of_find?_eq_some h, by simpa using List.find?_some h⟩
  · rintro ⟨hf, rfl⟩
    obtain ⟨g, hfind⟩ : ∃ g, (fields.find? fun g ↦ g.name == f.name) = some g := by
      rw [← Option.isSome_iff_exists, List.find?_isSome]
      exact ⟨f, hf, beq_self_eq_true _⟩
    have hg : g ∈ fields := List.mem_of_find?_eq_some hfind
    have hname : g.name = f.name := by simpa using List.find?_some hfind
    rw [hfind, List.inj_on_of_nodup_map hfields hg hf hname]

/-- **The members of an object** are put in if their names are those of fields and none comes
twice. -/
theorem putMembers_eq_ok_iff (hfields : (fields.map Field.name).Nodup) {met : List String}
    {ms : List (String × Json)} :
    putMembers fields met ms s = .ok s' ↔
      ((ms.map Prod.fst).Nodup ∧ ∀ m ∈ ms, m.1 ∉ met) ∧ Puts (Field.Sets fields) ms s s' := by
  induction ms generalizing met s with
  | nil =>
    rw [putMembers, Except.ok.injEq]
    constructor
    · rintro rfl
      exact ⟨⟨List.nodup_nil, fun m hm ↦ absurd hm List.not_mem_nil⟩, .nil⟩
    · rintro ⟨-, hputs⟩
      cases hputs
      rfl
  | cons m ms ih =>
    obtain ⟨name, v⟩ := m
    -- What has been met behind the member is what had been met before, and its name.
    have hmet : (((name, v) :: ms).map Prod.fst).Nodup ∧ (∀ m ∈ (name, v) :: ms, m.1 ∉ met) ↔
        name ∉ met ∧ (ms.map Prod.fst).Nodup ∧ ∀ m ∈ ms, m.1 ∉ name :: met := by
      simp only [List.map_cons, List.nodup_cons, List.mem_map, List.mem_cons, not_or,
        forall_eq_or_imp]
      grind
    rw [hmet, putMembers]
    constructor
    · intro h
      rcases hfind : fields.find? fun f ↦ f.name == name with - | f
      · rw [hfind] at h
        cases h
      · rw [hfind] at h
        obtain ⟨hf, hname⟩ := (find?_eq_some_iff hfields).mp hfind
        by_cases hin : name ∈ met
        · simp [hin] at h
        · simp only [hin, if_false] at h
          obtain ⟨s₁, hput, hrest⟩ := bind_eq_ok_iff.mp h
          obtain ⟨hms, hputs⟩ := ih.mp hrest
          exact ⟨⟨hin, hms⟩, .cons ⟨f, hf, hname, hput⟩ hputs⟩
    · rintro ⟨⟨hin, hms⟩, hputs⟩
      obtain ⟨⟩ | ⟨⟨f, hf, hname, hput⟩, hputs⟩ := hputs
      rw [(find?_eq_some_iff hfields).mpr ⟨hf, hname⟩]
      simp only [hin, if_false]
      exact bind_eq_ok_iff.mpr ⟨_, hput, ih.mpr ⟨hms, hputs⟩⟩

/-- **The items of an array** are put in as the members of the first fields. -/
theorem putItems_eq_ok_iff (hfields : (fields.map Field.name).Nodup) {left : List (Field σ)}
    (hleft : left <:+ fields) {vs : List Json} :
    putItems left vs s = .ok s' ↔
      vs.length ≤ left.length ∧ Puts (Field.Sets fields) ((left.map Field.name).zip vs) s s' := by
  induction vs generalizing left s with
  | nil =>
    rw [List.zip_nil_right]
    have hitems : putItems left [] s = .ok s := by cases left <;> rfl
    rw [hitems, Except.ok.injEq]
    constructor
    · rintro rfl
      exact ⟨Nat.zero_le _, .nil⟩
    · rintro ⟨-, hputs⟩
      cases hputs
      rfl
  | cons v vs ih =>
    cases left with
    | nil => simp [putItems]
    | cons f left =>
      have hf : f ∈ fields := hleft.subset List.mem_cons_self
      have hrest : left <:+ fields := (List.suffix_cons f left).trans hleft
      rw [putItems, bind_eq_ok_iff]
      simp only [List.length_cons, Nat.add_le_add_iff_right, List.map_cons, List.zip_cons_cons]
      constructor
      · rintro ⟨s₁, hput, h⟩
        obtain ⟨hlength, hputs⟩ := (ih hrest).mp h
        exact ⟨hlength, .cons ⟨f, hf, rfl, hput⟩ hputs⟩
      · rintro ⟨hlength, hputs⟩
        obtain ⟨⟩ | ⟨⟨g, hg, hname, hput⟩, hputs⟩ := hputs
        obtain rfl := List.inj_on_of_nodup_map hfields hg hf hname
        exact ⟨_, hput, (ih hrest).mpr ⟨hlength, hputs⟩⟩

/-- Whatever has been put in, nothing comes out of a value that is cut off. -/
theorem bind_cut_eq_ok_iff {r : Except JsonFault σ} {cut : Option JsonFault} :
    (do let s₁ ← r; match cut with | some fault => .error fault | none => return s₁) = .ok s' ↔
      cut = none ∧ r = .ok s' := by
  rw [bind_eq_ok_iff]
  cases cut with
  | none => simp [pure, Except.pure]
  | some fault => simp

/-- **A record** is what its members are put into. -/
theorem asRecord_eq_ok_iff (hfields : (fields.map Field.name).Nodup) {v : Json} :
    asRecord fields s v = .ok s' ↔
      ∃ ms, Members (fields.map Field.name) v ms ∧ Puts (Field.Sets fields) ms s s' := by
  cases v with
  | object ms cut =>
    have hrecord : asRecord fields s (.object ms cut) = .ok s' ↔
        cut = none ∧ putMembers fields [] ms s = .ok s' := by
      rw [← bind_cut_eq_ok_iff, asRecord]
      cases putMembers fields [] ms s <;> rfl
    rw [hrecord, putMembers_eq_ok_iff hfields]
    constructor
    · rintro ⟨rfl, ⟨hnodup, -⟩, hputs⟩
      refine ⟨ms, .object hnodup fun m hm ↦ ?_, hputs⟩
      obtain ⟨s₁, s₂, f, hf, hname, -⟩ := hputs.of_mem hm
      exact hname ▸ List.mem_map_of_mem hf
    · rintro ⟨ms', hms, hputs⟩
      cases hms with
      | object hnodup =>
        exact ⟨rfl, ⟨hnodup, fun m _ ↦ List.not_mem_nil⟩, hputs⟩
  | array vs cut =>
    have hrecord : asRecord fields s (.array vs cut) = .ok s' ↔
        cut = none ∧ putItems fields vs s = .ok s' := by
      rw [← bind_cut_eq_ok_iff, asRecord]
      cases putItems fields vs s <;> rfl
    rw [hrecord, putItems_eq_ok_iff hfields List.suffix_rfl]
    constructor
    · rintro ⟨rfl, hlength, hputs⟩
      exact ⟨_, .array (by rwa [List.length_map]), hputs⟩
    · rintro ⟨ms', hms, hputs⟩
      cases hms with
      | array hlength =>
        rw [List.length_map] at hlength
        exact ⟨rfl, hlength, hputs⟩
  | _ =>
    refine iff_of_false (fun h ↦ by cases h) ?_
    rintro ⟨ms, hms, -⟩
    cases hms

end SecretScan.Json
