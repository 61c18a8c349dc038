import ProxyDial.Proofs.Json.Reading
import ProxyDial.Proofs.Options.Json

/-!
# Options depend on the known members

What options a JSON object gives is decided by the members whose keys name a field
(`Options.known`).

*Fields.*  `Field.Says` is the relation between the value of a member and what the field then
holds, for each of the five fields.

*Members.*  Options are read if each key has a text, no field is named twice, and each known
member says what its field holds.  The other fields are left as they were
(`Options.setMembers?_eq_some_iff`).  Nothing of this depends on the order of the members.

*Items.*  The items of an array do the same as members of the fields in order
(`Options.setItems?_eq_some_iff`).
-/

namespace ProxyDial

open Json (Value Token Part)

/-! ## Fields -/

namespace Json.Value

theorem uint64?_eq_some_iff {v : Value} {n : UInt64} :
    v.uint64? = some n ↔ v = .number (some n.toNat) := by
  constructor
  · intro h
    unfold uint64? at h
    split at h
    · split at h
      · rename_i m hm
        cases h
        rw [UInt64.toNat_ofNat_of_lt' hm]
      · cases h
    · cases h
  · rintro rfl
    exact uint64?_written n

theorem text?_eq_some_iff {v : Value} {s : String} :
    v.text? = some s ↔ ∃ parts, v = .string parts ∧ Quoted.text? parts = some s.toList := by
  constructor
  · intro h
    unfold text? at h
    split at h
    · rename_i parts
      obtain ⟨cs, hcs, rfl⟩ := Option.map_eq_some_iff.1 h
      exact ⟨parts, rfl, by rw [hcs, String.toList_ofList]⟩
    · cases h
  · rintro ⟨parts, rfl, h⟩
    rw [text?, h, Option.map_some, String.ofList_toList]

end Json.Value

theorem Family.ofName?_eq_some_iff {s : String} {family : Family} :
    Family.ofName? s = some family ↔ s = family.name := by
  constructor
  · intro h
    unfold Family.ofName? at h
    split at h
    · next hs => cases h; exact hs
    split at h
    · next hs => cases h; exact hs
    split at h
    · next hs => cases h; exact hs
    · cases h
  · rintro rfl
    exact Family.ofName?_name family

namespace Json.Value

theorem optional?_uint64?_eq_some_iff {v : Value} {x : Option UInt64} :
    v.optional? uint64? = some x ↔ v = x.elim .null fun n => .number (some n.toNat) := by
  constructor
  · intro h
    unfold optional? at h
    split at h
    · cases h
      rfl
    · obtain ⟨n, hn, rfl⟩ := Option.map_eq_some_iff.1 h
      exact uint64?_eq_some_iff.1 hn
  · rintro rfl
    cases x with
    | none => rfl
    | some n => exact congrArg (·.map some) (uint64?_written n)

theorem family?_eq_some_iff {v : Value} {family : Family} :
    v.family? = some family ↔
      ∃ name, Quoted.text? name = some family.name.toList ∧
        (v = .string name ∨ v = .object [(name, .null)]) := by
  -- Both forms of a family ask for the same name.
  have hname : ∀ name : List Part, (text? (.string name) >>= Family.ofName?) = some family ↔
      Quoted.text? name = some family.name.toList := by
    intro name
    rw [Option.bind_eq_bind, Option.bind_eq_some_iff]
    constructor
    · rintro ⟨s, hs, hfamily⟩
      obtain ⟨parts, hparts, hs⟩ := text?_eq_some_iff.1 hs
      cases hparts
      rwa [Family.ofName?_eq_some_iff.1 hfamily] at hs
    · intro h
      exact ⟨family.name, text?_eq_some_iff.2 ⟨name, rfl, h⟩, Family.ofName?_name family⟩
  constructor
  · intro h
    unfold family? at h
    split at h
    · exact ⟨_, (hname _).1 h, .inr rfl⟩
    · exact ⟨_, (hname _).1 h, .inl rfl⟩
    · cases h
  · rintro ⟨name, h, rfl | rfl⟩
    · exact (hname name).2 h
    · exact (hname name).2 h

end Json.Value

namespace Options

namespace Field

/-- What a field holds. -/
def Content : Field → Type
  | .connectTimeoutSecs => UInt64
  | .handshakeTimeoutSecs => UInt64
  | .resolveTimeoutSecs => Option UInt64
  | .family => Family
  | .userId => String

/-- Which values of JSON say what a field holds. -/
inductive Says : (f : Field) → Value → f.Content → Prop where
  | connectTimeoutSecs (secs : UInt64) :
      Says .connectTimeoutSecs (.number (some secs.toNat)) secs
  | handshakeTimeoutSecs (secs : UInt64) :
      Says .handshakeTimeoutSecs (.number (some secs.toNat)) secs
  | resolveTimeoutSecs (secs : UInt64) :
      Says .resolveTimeoutSecs (.number (some secs.toNat)) (some secs)
  | noResolveTimeout : Says .resolveTimeoutSecs .null none
  | family {name : List Part} {family : Family}
      (h : Json.Quoted.text? name = some family.name.toList) :
      Says .family (.string name) family
  /-- The name of a family may be the key of an object. -/
  | familyObject {name : List Part} {family : Family}
      (h : Json.Quoted.text? name = some family.name.toList) :
      Says .family (.object [(name, .null)]) family
  | userId {parts : List Part} {userId : String}
      (h : Json.Quoted.text? parts = some userId.toList) :
      Says .userId (.string parts) userId

/-- What a value says that a field holds. -/
def read? : (f : Field) → Value → Option f.Content
  | .connectTimeoutSecs, v => v.uint64?
  | .handshakeTimeoutSecs, v => v.uint64?
  | .resolveTimeoutSecs, v => v.optional? Value.uint64?
  | .family, v => v.family?
  | .userId, v => v.text?

theorem read?_eq_some_iff {f : Field} {v : Value} {x : f.Content} :
    f.read? v = some x ↔ f.Says v x := by
  cases f with
  | connectTimeoutSecs =>
    refine Value.uint64?_eq_some_iff.trans ⟨?_, ?_⟩
    · rintro rfl
      exact .connectTimeoutSecs x
    · rintro ⟨⟩
      rfl
  | handshakeTimeoutSecs =>
    refine Value.uint64?_eq_some_iff.trans ⟨?_, ?_⟩
    · rintro rfl
      exact .handshakeTimeoutSecs x
    · rintro ⟨⟩
      rfl
  | resolveTimeoutSecs =>
    refine Value.optional?_uint64?_eq_some_iff.trans ⟨?_, ?_⟩
    · rintro rfl
      cases x with
      | none => exact .noResolveTimeout
      | some secs => exact .resolveTimeoutSecs secs
    · intro h
      cases h <;> rfl
  | family =>
    refine Value.family?_eq_some_iff.trans ⟨?_, ?_⟩
    · rintro ⟨name, h, rfl | rfl⟩
      · exact .family h
      · exact .familyObject h
    · intro h
      cases h with
      | family h => exact ⟨_, h, .inl rfl⟩
      | familyObject h => exact ⟨_, h, .inr rfl⟩
  | userId =>
    refine Value.text?_eq_some_iff.trans ⟨?_, ?_⟩
    · rintro ⟨parts, rfl, h⟩
      exact .userId h
    · rintro ⟨⟩
      exact ⟨_, rfl, ‹_›⟩

/-- A value says one thing at most. -/
theorem Says.unique {f : Field} {v : Value} {x y : f.Content} (hx : f.Says v x)
    (hy : f.Says v y) : x = y :=
  Option.some.inj ((read?_eq_some_iff.2 hx).symm.trans (read?_eq_some_iff.2 hy))

end Field

/-- What options hold in a field. -/
def get (o : Options) : (f : Field) → f.Content
  | .connectTimeoutSecs => o.connectTimeoutSecs
  | .handshakeTimeoutSecs => o.handshakeTimeoutSecs
  | .resolveTimeoutSecs => o.resolveTimeoutSecs
  | .family => o.family
  | .userId => o.userId

/-- Options with something else in one field. -/
def put (o : Options) : (f : Field) → f.Content → Options
  | .connectTimeoutSecs, secs => { o with connectTimeoutSecs := secs }
  | .handshakeTimeoutSecs, secs => { o with handshakeTimeoutSecs := secs }
  | .resolveTimeoutSecs, secs => { o with resolveTimeoutSecs := secs }
  | .family, family => { o with family }
  | .userId, userId => { o with userId }

variable {o o' base : Options} {f g : Field} {v : Value}

@[simp] theorem get_put_self (x : f.Content) : (o.put f x).get f = x := by cases f <;> rfl

theorem get_put_of_ne (h : g ≠ f) (x : f.Content) : (o.put f x).get g = o.get g := by
  cases f <;> cases g <;> first | rfl | exact absurd rfl h

theorem ext_get (h : ∀ f, o.get f = o'.get f) : o = o' := by
  cases o
  cases o'
  congr
  · exact h .connectTimeoutSecs
  · exact h .handshakeTimeoutSecs
  · exact h .resolveTimeoutSecs
  · exact h .family
  · exact h .userId

theorem set?_eq_some_iff : base.set? v f = some o ↔ ∃ x, f.Says v x ∧ base.put f x = o := by
  have hset : base.set? v f = (f.read? v).map (base.put f) := by cases f <;> rfl
  simp only [hset, Option.map_eq_some_iff, Field.read?_eq_some_iff]

/-! ## What members say -/

/-- Whether options hold what members say, and what other options hold in all other fields. -/
structure Sets (base : Options) (members : List (Field × Value)) (o : Options) : Prop where
  values : ∀ m ∈ members, m.1.Says m.2 (o.get m.1)
  others : ∀ f ∉ members.map Prod.fst, o.get f = base.get f

variable {members members' : List (Field × Value)}

theorem sets_nil_iff : Sets base [] o ↔ base = o := by
  constructor
  · intro h
    exact ext_get fun f => (h.others f (by simp)).symm
  · rintro rfl
    exact ⟨by simp, fun _ _ => rfl⟩

/-- What the first member says holds if no other member names its field. -/
theorem sets_cons_iff (hf : f ∉ members.map Prod.fst) :
    Sets base ((f, v) :: members) o ↔ ∃ x, f.Says v x ∧ Sets (base.put f x) members o := by
  constructor
  · intro h
    refine ⟨o.get f, h.values (f, v) (.head _), fun m hm => h.values m (.tail _ hm), fun g hg => ?_⟩
    by_cases hgf : g = f
    · subst hgf
      exact (get_put_self _).symm
    · rw [get_put_of_ne hgf]
      exact h.others g (by simp [hgf, hg])
  · rintro ⟨x, hx, h⟩
    have hget : o.get f = x := by rw [h.others f hf, get_put_self]
    refine ⟨fun m hm => ?_, fun g hg => ?_⟩
    · rcases List.mem_cons.1 hm with rfl | hm
      · exact hget ▸ hx
      · exact h.values m hm
    · rw [List.map_cons, List.mem_cons, not_or] at hg
      rw [h.others g hg.2, get_put_of_ne hg.1]

theorem Sets.perm (hperm : members.Perm members') (h : Sets base members o) :
    Sets base members' o where
  values m hm := h.values m (hperm.mem_iff.2 hm)
  others f hf := h.others f fun hmem => hf ((hperm.map Prod.fst).mem_iff.1 hmem)

theorem exists_sets (hnodup : (members.map Prod.fst).Nodup)
    (hvalues : ∀ m ∈ members, ∃ x, m.1.Says m.2 x) (base : Options) :
    ∃ o, Sets base members o := by
  induction members generalizing base with
  | nil => exact ⟨base, sets_nil_iff.2 rfl⟩
  | cons m members ih =>
    obtain ⟨f, v⟩ := m
    obtain ⟨hf, hnodup⟩ := List.nodup_cons.1 hnodup
    obtain ⟨x, hx⟩ := hvalues (f, v) (.head _)
    obtain ⟨o, ho⟩ := ih hnodup (fun m hm => hvalues m (.tail _ hm)) (base.put f x)
    exact ⟨o, (sets_cons_iff hf).2 ⟨x, hx, ho⟩⟩

/-! ## Members of objects -/

/-- The field that a key names. -/
def Field.named? (key : List Part) : Option Field := Value.text? (.string key) >>= Field.ofKey?

/-- The members that name a field, with the field. -/
def known (members : List (List Part × Value)) : List (Field × Value) :=
  members.filterMap fun (key, v) => (Field.named? key).map (·, v)

/-- Whether the key of each member has a text.  One with half a surrogate pair has none. -/
def Named (members : List (List Part × Value)) : Prop :=
  ∀ m ∈ members, (Value.text? (.string m.1)).isSome

instance (members : List (List Part × Value)) : Decidable (Named members) :=
  inferInstanceAs (Decidable (∀ m ∈ members, (Value.text? (.string m.1)).isSome))

variable {key : List Part} {seen : List Field} {written written' : List (List Part × Value)}

theorem known_cons_of_named (h : Field.named? key = some f) (v : Value) :
    known ((key, v) :: written) = (f, v) :: known written :=
  List.filterMap_cons_some (by simp [h])

theorem known_cons_of_not_named (h : Field.named? key = none) (v : Value) :
    known ((key, v) :: written) = known written :=
  List.filterMap_cons_none (by simp [h])

theorem known_append (written written' : List (List Part × Value)) :
    known (written ++ written') = known written ++ known written' := List.filterMap_append

theorem setMembers?_cons_of_named (h : Field.named? key = some f) :
    setMembers? seen base ((key, v) :: written) =
      if f ∈ seen then none
      else base.set? v f >>= fun o => setMembers? (f :: seen) o written := by
  obtain ⟨name, hname, hf⟩ := Option.bind_eq_some_iff.1 h
  simp only [setMembers?, hname, hf]
  split
  · rfl
  · cases base.set? v f <;> rfl

theorem setMembers?_cons_of_not_named (hkey : (Value.text? (.string key)).isSome)
    (h : Field.named? key = none) :
    setMembers? seen base ((key, v) :: written) = setMembers? seen base written := by
  obtain ⟨name, hname⟩ := Option.isSome_iff_exists.1 hkey
  rw [Field.named?, hname] at h
  simp only [setMembers?, hname, show Field.ofKey? name = none from h]

/-- Whether fields are named once each and none of them was seen before. -/
structure Fresh (seen fields : List Field) : Prop where
  nodup : fields.Nodup
  unseen : ∀ f ∈ fields, f ∉ seen

variable {fields : List Field}

theorem Fresh.not_mem (h : Fresh (f :: seen) fields) : f ∉ fields := fun hmem =>
  h.unseen f hmem (.head _)

theorem fresh_cons_iff : Fresh seen (f :: fields) ↔ f ∉ seen ∧ Fresh (f :: seen) fields := by
  constructor
  · intro h
    obtain ⟨hf, hnodup⟩ := List.nodup_cons.1 h.nodup
    refine ⟨h.unseen f (.head _), hnodup, fun g hg hmem => ?_⟩
    rcases List.mem_cons.1 hmem with rfl | hmem
    · exact hf hg
    · exact h.unseen g (.tail _ hg) hmem
  · rintro ⟨hf, h⟩
    refine ⟨List.nodup_cons.2 ⟨h.not_mem, h.nodup⟩, fun g hg => ?_⟩
    rcases List.mem_cons.1 hg with rfl | hg
    · exact hf
    · exact fun hmem => h.unseen g hg (.tail _ hmem)

/-- What an object with these members sets. -/
theorem setMembers?_eq_some_iff :
    setMembers? seen base written = some o ↔
      Named written ∧ Fresh seen ((known written).map Prod.fst) ∧
        Sets base (known written) o := by
  -- A known member is seen by the members after it, so what was seen and what was set before
  -- vary in the induction.
  induction written generalizing seen base with
  | nil =>
    have hfresh : Fresh seen [] := ⟨.nil, nofun⟩
    simp [setMembers?, Named, known, sets_nil_iff, hfresh]
  | cons m written ih =>
    obtain ⟨key, v⟩ := m
    have hnamed : Named ((key, v) :: written) ↔
        (Value.text? (.string key)).isSome ∧ Named written := List.forall_mem_cons
    rw [hnamed]
    by_cases hkey : (Value.text? (.string key)).isSome
    case neg =>
      rw [Option.not_isSome_iff_eq_none] at hkey
      simp [setMembers?, hkey]
    case pos =>
      cases hf : Field.named? key with
      | none =>
        rw [setMembers?_cons_of_not_named hkey hf, known_cons_of_not_named hf, ih]
        simp only [hkey, true_and]
      | some f =>
        rw [setMembers?_cons_of_named hf, known_cons_of_named hf, List.map_cons, fresh_cons_iff]
        split
        case isTrue hseen => simp [hseen]
        case isFalse hseen =>
          simp only [Option.bind_eq_bind, Option.bind_eq_some_iff, set?_eq_some_iff, ih]
          constructor
          · rintro ⟨_, ⟨x, hx, rfl⟩, hwritten, hfresh, hsets⟩
            exact ⟨⟨hkey, hwritten⟩, ⟨hseen, hfresh⟩,
              (sets_cons_iff hfresh.not_mem).2 ⟨x, hx, hsets⟩⟩
          · rintro ⟨⟨-, hwritten⟩, ⟨-, hfresh⟩, hsets⟩
            obtain ⟨x, hx, hsets⟩ := (sets_cons_iff hfresh.not_mem).1 hsets
            exact ⟨_, ⟨x, hx, rfl⟩, hwritten, hfresh, hsets⟩

/-! ## Items of arrays -/

theorem map_fst_zip_sublist (fields : List Field) (items : List Value) :
    ((fields.zip items).map Prod.fst).Sublist fields := by
  induction fields generalizing items with
  | nil => exact .slnil
  | cons f fields ih =>
    cases items with
    | nil => exact List.nil_sublist _
    | cons v items => exact (ih items).cons_cons f

/-- What an array with these items sets. -/
theorem setItems?_eq_some_iff {items : List Value} (hnodup : fields.Nodup) :
    setItems? base fields items = some o ↔
      items.length ≤ fields.length ∧ Sets base (fields.zip items) o := by
  induction fields generalizing base items with
  | nil => cases items <;> simp [setItems?, sets_nil_iff]
  | cons f fields ih =>
    obtain ⟨hf, hnodup⟩ := List.nodup_cons.1 hnodup
    cases items with
    | nil => simp [setItems?, sets_nil_iff]
    | cons v items =>
      have hother : f ∉ (fields.zip items).map Prod.fst := fun hmem =>
        hf ((map_fst_zip_sublist fields items).mem hmem)
      have hset : setItems? base (f :: fields) (v :: items) =
          base.set? v f >>= fun o => setItems? o fields items := by
        rw [setItems?]
        cases base.set? v f <;> rfl
      rw [hset, List.zip_cons_cons, sets_cons_iff hother, List.length_cons, List.length_cons,
        Nat.add_le_add_iff_right]
      simp only [Option.bind_eq_bind, Option.bind_eq_some_iff, set?_eq_some_iff, ih hnodup]
      constructor
      · rintro ⟨_, ⟨x, hx, rfl⟩, hlength, hsets⟩
        exact ⟨hlength, x, hx, hsets⟩
      · rintro ⟨hlength, x, hx, hsets⟩
        exact ⟨_, ⟨x, hx, rfl⟩, hlength, hsets⟩

/-! ## Texts -/

variable {s s' : String} {items : List Value}

theorem ofJson?_of_text (h : v.Text s.toList) : ofJson? s = ofValue? v := by
  rw [ofJson?, Value.ofString?_eq_some_iff.2 h]
  rfl

theorem ofJson?_object_eq_some_iff (h : (Value.object written).Text s.toList) :
    ofJson? s = some o ↔
      Named written ∧ ((known written).map Prod.fst).Nodup ∧ Sets {} (known written) o := by
  rw [ofJson?_of_text h, ofValue?, setMembers?_eq_some_iff]
  exact and_congr_right fun _ =>
    and_congr_left fun _ => ⟨Fresh.nodup, fun hnodup => ⟨hnodup, fun _ _ => List.not_mem_nil⟩⟩

theorem ofJson?_array_eq_some_iff (h : (Value.array items).Text s.toList) :
    ofJson? s = some o ↔ items.length ≤ Field.all.length ∧ Sets {} (Field.all.zip items) o := by
  rw [ofJson?_of_text h, ofValue?, setItems?_eq_some_iff (by decide)]

theorem ofJson?_eq_of_known (h : (Value.object written).Text s.toList)
    (h' : (Value.object written').Text s'.toList) (hnamed : Named written ↔ Named written')
    (hperm : (known written).Perm (known written')) : ofJson? s = ofJson? s' := by
  refine Option.ext fun o => ?_
  rw [ofJson?_object_eq_some_iff h, ofJson?_object_eq_some_iff h', hnamed,
    (hperm.map Prod.fst).nodup_iff]
  exact and_congr_right fun _ => and_congr_right fun _ => ⟨.perm hperm, .perm hperm.symm⟩

/-- An array is read like the object whose known members are its items. -/
theorem ofJson?_array_eq (h : (Value.array items).Text s.toList)
    (h' : (Value.object written).Text s'.toList) (hlength : items.length ≤ Field.all.length)
    (hnamed : Named written) (hperm : (known written).Perm (Field.all.zip items)) :
    ofJson? s = ofJson? s' := by
  have hall : Field.all.Nodup := by decide
  have hnodup : ((known written).map Prod.fst).Nodup :=
    (hperm.map Prod.fst).nodup_iff.2 (hall.sublist (map_fst_zip_sublist Field.all items))
  refine Option.ext fun o => ?_
  rw [ofJson?_array_eq_some_iff h, ofJson?_object_eq_some_iff h']
  constructor
  · rintro ⟨-, hsets⟩
    exact ⟨hnamed, hnodup, hsets.perm hperm.symm⟩
  · rintro ⟨-, -, hsets⟩
    exact ⟨hlength, hsets.perm hperm⟩

/-- Two members that name one field are not read, whatever stands around them. -/
theorem ofJson?_eq_none_of_twice {before between after : List (List Part × Value)}
    {key' : List Part} {v' : Value}
    (h : (Value.object (before ++ (key, v) :: (between ++ (key', v') :: after))).Text s.toList)
    (hkey : Field.named? key = some f) (hkey' : Field.named? key' = some f) :
    ofJson? s = none := by
  refine Option.eq_none_iff_forall_ne_some.2 fun o ho => ?_
  obtain ⟨-, hnodup, -⟩ := (ofJson?_object_eq_some_iff h).1 ho
  rw [known_append, known_cons_of_named hkey, known_append, known_cons_of_named hkey',
    List.map_append, List.map_cons] at hnodup
  have hother := (List.nodup_cons.1 (List.nodup_append.1 hnodup).2.1).1
  exact hother (by simp)

theorem exists_text_of_ofJson? (h : ofJson? s = some o) :
    ∃ v, Value.ofString? s = some v ∧ v.Text s.toList := by
  obtain ⟨v, hv, -⟩ := Option.bind_eq_some_iff.1 h
  exact ⟨v, hv, Value.ofString?_eq_some_iff.1 hv⟩

/-- An object is read if each known field occurs at most once and its value is acceptable, and then
each field holds what its member says, or the default.  Members in another order and members of
unknown names make no difference.  A field that occurs twice and a value that is malformed make
reading fail, the latter under any name.  An array is read like the object of the first fields. -/
theorem ofJson?_members :
    (∀ s written, (Value.object written).Text s.toList → Named written →
      ((known written).map Prod.fst).Nodup → (∀ m ∈ known written, ∃ x, m.1.Says m.2 x) →
      ∃ o, ofJson? s = some o ∧
        (∀ f v x, (f, v) ∈ known written → f.Says v x → o.get f = x) ∧
        ∀ f ∉ (known written).map Prod.fst, o.get f = ({} : Options).get f) ∧
    -- Nothing but the known members counts.
    (∀ s s' written written', (Value.object written).Text s.toList →
      (Value.object written').Text s'.toList → (Named written ↔ Named written') →
      (known written).Perm (known written') → ofJson? s = ofJson? s') ∧
    (∀ s s' written written', (Value.object written).Text s.toList →
      (Value.object written').Text s'.toList → written.Perm written' → ofJson? s = ofJson? s') ∧
    (∀ s s' before after key v, (Value.object (before ++ (key, v) :: after)).Text s.toList →
      (Value.object (before ++ after)).Text s'.toList → (Value.text? (.string key)).isSome →
      Field.named? key = none → ofJson? s = ofJson? s') ∧
    -- A known field occurs once.
    (∀ s before between after key key' v v' f,
      (Value.object (before ++ (key, v) :: (between ++ (key', v') :: after))).Text s.toList →
      Field.named? key = some f → Field.named? key' = some f → ofJson? s = none) ∧
    -- The value of each member is well formed.
    (∀ before key pre rest, Token.Text (Value.Frame.object before key).tokens pre →
      ¬Value.BeginsMember rest → ofJson? (.ofList (pre ++ rest)) = none) ∧
    -- Items stand for the first fields.
    (∀ s s' items written, (Value.array items).Text s.toList →
      (Value.object written).Text s'.toList → items.length ≤ 5 → Named written →
      (known written).Perm (Field.all.zip items) → ofJson? s = ofJson? s') ∧
    -- What is read is written by the grammar.
    (∀ s v, Value.ofString? s = some v ↔ v.Text s.toList) ∧
    ∀ s, (∀ v : Value, ¬v.Text s.toList) → ofJson? s = none := by
  refine ⟨?accepted, ?known, ?order, ?unknown, ?twice, ?malformed, ?array, ?grammar, ?text⟩
  case accepted =>
    intro s written h hnamed hnodup hvalues
    obtain ⟨o, ho⟩ := exists_sets hnodup hvalues {}
    refine ⟨o, (ofJson?_object_eq_some_iff h).2 ⟨hnamed, hnodup, ho⟩, ?_, ho.others⟩
    intro f v x hm hx
    exact (ho.values (f, v) hm).unique hx
  case known => exact fun s s' written written' => ofJson?_eq_of_known
  case order =>
    intro s s' written written' h h' hperm
    have hnamed : Named written ↔ Named written' := by
      simp only [Named, hperm.mem_iff]
    exact ofJson?_eq_of_known h h' hnamed (hperm.filterMap _)
  case unknown =>
    intro s s' before after key v h h' hkey hunknown
    refine ofJson?_eq_of_known h h' ?_ ?_
    · rw [Named, Named, List.forall_mem_append, List.forall_mem_append, List.forall_mem_cons]
      simp only [hkey, true_and]
    · rw [known_append, known_append, known_cons_of_not_named hunknown]
  case twice =>
    exact fun s before between after key key' v v' f => ofJson?_eq_none_of_twice
  case malformed =>
    intro before key pre rest hpre hrest
    refine Option.eq_none_iff_forall_ne_some.2 fun o ho => hrest ?_
    obtain ⟨v, hv, -⟩ := exists_text_of_ofJson? ho
    exact Value.beginsMember_of_ofString? hpre hv
  case array => exact fun s s' items written => ofJson?_array_eq
  case grammar => exact fun s v => Value.ofString?_eq_some_iff
  case text =>
    intro s h
    refine Option.eq_none_iff_forall_ne_some.2 fun o ho => ?_
    obtain ⟨v, -, hv⟩ := exists_text_of_ofJson? ho
    exact h v hv

/-- An unknown member with a nested value is passed over.  A family that is named twice and a
number with a superfluous zero are refused, and one item stands for the first field. -/
theorem ofJson?_members_nested :
    (∃ o, ofJson? " \x7b \"x\":[\x7b\"\":1e5\x7d],\n\t\"family\":\x7b\"v4_only\":null\x7d\x7d" =
        some o ∧ o.family = .v4Only ∧ o.userId = defaultUserId) ∧
    ofJson? "\x7b\"family\":\"any\",\"x\":0,\"family\":\"any\"\x7d" = none ∧
    ofJson? (.ofList ("\x7b\"x\":".toList ++ "01\x7d".toList)) = none ∧
    ofJson? "[3]" = ofJson? "\x7b\"connect_timeout_secs\":3\x7d" := by
  obtain ⟨haccepted, -, -, -, htwice, hmalformed, harray, -⟩ := ofJson?_members
  refine ⟨?_, ?_, ?_, ?_⟩
  · let written : List (List Part × Value) :=
      [([.char 'x'], .array [.object [([], .number none)]]),
        ("family".toList.map .char, .object [("v4_only".toList.map .char, .null)])]
    have hknown : known written = [(.family, .object [("v4_only".toList.map .char, .null)])] := by
      rw [known_cons_of_not_named (by decide +kernel),
        known_cons_of_named (f := .family) (by decide +kernel)]
      rfl
    have hfamily : Field.Says .family (.object [("v4_only".toList.map .char, .null)])
        Family.v4Only := .familyObject (by decide +kernel)
    refine Exists.imp (fun o ho => ⟨ho.1, ?_, ?_⟩) (haccepted _ written
      (Token.text_of_ofChars? (by decide +kernel)) (by decide +kernel) (by rw [hknown]; decide)
      (by rw [hknown]; exact List.forall_mem_singleton.2 ⟨_, hfamily⟩))
    · exact ho.2.1 .family _ _ (by rw [hknown]; exact .head _) hfamily
    · exact ho.2.2 .userId (by rw [hknown]; decide)
  · exact htwice _ [] [([.char 'x'], .number (some 0))] [] ("family".toList.map .char)
      ("family".toList.map .char) (.string ("any".toList.map .char))
      (.string ("any".toList.map .char)) .family (Token.text_of_ofChars? (by decide +kernel))
      (by decide +kernel) (by decide +kernel)
  · refine hmalformed [] [.char 'x'] _ _ (Token.text_of_ofChars? (by decide +kernel)) ?_
    rintro ⟨v, text, c, after, hsplit, htext, hc⟩
    have hnone : Value.ofString? "01" = none := by decide +kernel
    change ['0', '1', '\x7d'] = _ at hsplit
    rcases text with - | ⟨a, - | ⟨b, - | ⟨d, text⟩⟩⟩
    · cases hsplit
      simp at hc
    · cases hsplit
      simp at hc
    · cases hsplit
      cases hnone.symm.trans (Value.ofString?_eq_some_iff.2 htext)
    · cases text <;> cases hsplit
  · have hknown : known [("connect_timeout_secs".toList.map .char, .number (some 3))] =
        Field.all.zip [.number (some 3)] :=
      known_cons_of_named (f := .connectTimeoutSecs) (by decide +kernel) _
    exact harray _ _ [.number (some 3)]
      [("connect_timeout_secs".toList.map .char, .number (some 3))]
      (Token.text_of_ofChars? (by decide +kernel)) (Token.text_of_ofChars? (by decide +kernel))
      (by decide) (by decide +kernel) (.of_eq hknown)

end Options

end ProxyDial
