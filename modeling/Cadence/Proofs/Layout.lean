import Cadence.Proofs.MessageRoundTrip
import Mathlib.Data.List.Forall2
import Mathlib.Logic.Relation

/-!
# Layouts of messages

A layout says what the reader of a message asks a block for: which fields, whether the first record
of a field counts or all of them, what is required, and what the value of a field has to be, which
may be a block with a layout of its own. It is the format as somebody would write it down who knows
nothing of how messages are read.

A layout can be put to two uses. It says when two blocks are the same to a reader: if what is asked
for is the same in both, down to the fields of nested blocks. And it says when a block is valid: if
everything is there that is required, and nothing that is asked for is malformed. A message type is
governed by a layout if it reads the same from blocks that are the same to the layout, and if it is
read from the valid blocks and from no others.

Blocks that agree are met when a format grows: records are inserted that nobody knows, records trade
places, or a field is given once more. `Edit` describes these changes, at any depth of nesting.

## Main definitions

* `Layout`, `Shape`, `Use`: what is asked for
* `Layout.Agree`, `Shape.Alike`: blocks and values that are the same to a reader
* `Layout.Valid`, `Shape.Valid`: blocks and values that are as they have to be
* `Edit`: a change of a block that a reader does not notice
* `Layout.Governs`: the layout of a message type

## Main results

* `Edit.agree`: what an edit leaves as it was
* `Layout.Governs.decode_congr`, `Layout.Governs.decode_eq_of_edits`: what makes no difference
* `Layout.Governs.exists_decode_iff`: what can be read
-/

namespace Cadence.Wire

variable {b c front back : Block} {r s : Record} {id : FieldId} {v w : ByteArray}

/-! ### What is asked for -/

/-- How a field is asked for. -/
inductive Use where
  /-- The first record counts, and there has to be one. -/
  | required
  /-- The first record counts, if there is one. -/
  | optional
  /-- All records count, in their order. -/
  | listed
  /-- Required if the first record of another field holds this value, and not asked for
  otherwise. -/
  | requiredIf (tag : FieldId) (value : ByteArray)

mutual

/-- What the value of a field has to be. -/
inductive Shape where
  /-- Bytes that are no block, with this property. -/
  | value (holds : ByteArray → Prop)
  /-- A block of its own. -/
  | block (layout : Layout)

/-- What is asked of a block, field by field. -/
inductive Layout where
  | nil
  | field (id : FieldId) (use : Use) (shape : Shape) (rest : Layout)

end

/-- The fields of a layout. -/
def Layout.entries : Layout → List (FieldId × Use × Shape)
  | .nil => []
  | .field id use shape rest => (id, use, shape) :: rest.entries

/-- Is the field asked for when this block is read? -/
def Use.Asks (use : Use) (b : Block) : Prop :=
  match use with
  | required | optional | listed => True
  | requiredIf tag value => b.first? tag = some value

/-! ### The same to a reader -/

/-- What is asked for in this way is the same in both blocks, if values that are `alike` are. -/
def Use.Agree (use : Use) (alike : ByteArray → ByteArray → Prop) (id : FieldId) (b c : Block) :
    Prop :=
  match use with
  | required | optional => Option.Rel alike (b.first? id) (c.first? id)
  | listed => List.Forall₂ alike (b.all id) (c.all id)
  | requiredIf tag value =>
    b.first? tag = some value → c.first? tag = some value →
      Option.Rel alike (b.first? id) (c.first? id)

mutual

/-- Two values are the same to a reader: they are equal, or they are blocks that agree. -/
def Shape.Alike : Shape → ByteArray → ByteArray → Prop
  | .value _, v, w => v = w
  | .block layout, v, w =>
    v = w ∨ ∃ b c, Block.parse v = .ok b ∧ Block.parse w = .ok c ∧ layout.Agree b c

/-- Two blocks are the same to a reader: what is asked for is the same in both. -/
def Layout.Agree : Layout → Block → Block → Prop
  | .nil, _, _ => True
  | .field id use shape rest, b, c =>
    use.Agree (fun v w => shape.Alike v w) id b c ∧ rest.Agree b c

end

/-! ### As it has to be -/

/-- What is asked for in this way is there if it has to be, and `valid`. -/
def Use.Valid (use : Use) (valid : ByteArray → Prop) (id : FieldId) (b : Block) : Prop :=
  match use with
  | required => ∃ v, b.first? id = some v ∧ valid v
  | optional => ∀ v, b.first? id = some v → valid v
  | listed => ∀ v ∈ b.all id, valid v
  | requiredIf tag value => b.first? tag = some value → ∃ v, b.first? id = some v ∧ valid v

mutual

/-- A value has its property, or is a valid block. -/
def Shape.Valid : Shape → ByteArray → Prop
  | .value holds, v => holds v
  | .block layout, v => ∃ b, Block.parse v = .ok b ∧ layout.Valid b

/-- What is required of a block is there, and nothing that is asked for is malformed. -/
def Layout.Valid : Layout → Block → Prop
  | .nil, _ => True
  | .field id use shape rest, b => use.Valid (fun v => shape.Valid v) id b ∧ rest.Valid b

end

namespace Block

theorem all_append : all (b ++ c) id = all b id ++ all c id := by
  rw [all, List.filter_append, List.map_append, all, all]

theorem all_cons : all (r :: b) id = if r.id = id then r.value :: all b id else all b id := by
  by_cases h : r.id = id <;> simp [all, h]

/-- The first record of a field is the first of all its records. -/
theorem first?_eq_head? (b : Block) (id : FieldId) : b.first? id = (b.all id).head? := by
  rw [first?, all, List.head?_map, List.head?_filter]

end Block

theorem Shape.alike_refl (shape : Shape) (v : ByteArray) : shape.Alike v v := by
  cases shape with
  | value holds => rfl
  | block layout => exact .inl rfl

namespace Use

variable {alike : ByteArray → ByteArray → Prop} {use : Use}

/-- It is enough that all records agree. -/
theorem agree_of_all (h : List.Forall₂ alike (b.all id) (c.all id)) : use.Agree alike id b c := by
  have hfirst : Option.Rel alike (b.first? id) (c.first? id) := by
    rw [Block.first?_eq_head?, Block.first?_eq_head?]
    generalize b.all id = values at h
    generalize c.all id = values' at h
    cases h with
    | nil => exact .none
    | cons hv _ => exact .some hv
  cases use with
  | required => exact hfirst
  | optional => exact hfirst
  | listed => exact h
  | requiredIf tag value => exact fun _ _ => hfirst

/-- Of a field that is no list it is enough that the first records are equal. -/
theorem agree_of_first? (hrefl : ∀ v, alike v v) (huse : use ≠ .listed)
    (h : b.first? id = c.first? id) : use.Agree alike id b c := by
  have hfirst : Option.Rel alike (b.first? id) (c.first? id) := by
    rw [h]
    cases c.first? id with
    | none => exact .none
    | some v => exact .some (hrefl v)
  cases use with
  | required => exact hfirst
  | optional => exact hfirst
  | listed => exact absurd rfl huse
  | requiredIf tag value => exact fun _ _ => hfirst

end Use

namespace Layout

variable {layout : Layout}

theorem agree_iff :
    layout.Agree b c ↔ ∀ e ∈ layout.entries, e.2.1.Agree e.2.2.Alike e.1 b c := by
  induction layout using Layout.rec (motive_1 := fun _ => True) with
  | value => trivial
  | block => trivial
  | nil => simp [Agree, entries]
  | field id use shape rest _ ih => rw [Agree, ih, entries, List.forall_mem_cons]

theorem valid_iff : layout.Valid b ↔ ∀ e ∈ layout.entries, e.2.1.Valid e.2.2.Valid e.1 b := by
  induction layout using Layout.rec (motive_1 := fun _ => True) with
  | value => trivial
  | block => trivial
  | nil => simp [Valid, entries]
  | field id use shape rest _ ih => rw [Valid, ih, entries, List.forall_mem_cons]

/-- **A malformed value makes a block invalid**, if it is the first of a field that is asked for. -/
theorem not_valid_of_malformed {use : Use} {shape : Shape} (he : (id, use, shape) ∈ layout.entries)
    (hasks : use.Asks b) (hfirst : b.first? id = some v) (hv : ¬ shape.Valid v) :
    ¬ layout.Valid b := by
  intro hvalid
  have huse := valid_iff.mp hvalid _ he
  have hrequired : (∃ v, b.first? id = some v ∧ shape.Valid v) → False := by
    rintro ⟨w, hw, hvalid⟩
    cases hfirst.symm.trans hw
    exact hv hvalid
  cases use with
  | required => exact hrequired huse
  | optional => exact hv (huse v hfirst)
  | listed =>
    refine hv (huse v (List.mem_of_head? ?_))
    rw [← Block.first?_eq_head?, hfirst]
  | requiredIf tag value => exact hrequired (huse hasks)

end Layout

/-! ### Changes that go unnoticed -/

/-- A change of a block that is to have this shape, which a reader does not notice. -/
inductive Edit : Shape → Block → Block → Prop
  /-- A record is inserted that the layout does not know. -/
  | insert {layout : Layout} {front back : Block} {r : Record} :
    (∀ use shape, (r.id, use, shape) ∉ layout.entries) →
      Edit (.block layout) (front ++ back) (front ++ r :: back)
  /-- Two records of different fields trade places. -/
  | swap {layout : Layout} {front back : Block} {r s : Record} :
    r.id ≠ s.id → Edit (.block layout) (front ++ r :: s :: back) (front ++ s :: r :: back)
  /-- A field that is no list is given once more, behind its first record. -/
  | again {layout : Layout} {front back : Block} {r : Record} :
    (∀ shape, (r.id, .listed, shape) ∉ layout.entries) → (∃ s ∈ front, s.id = r.id) →
      Edit (.block layout) (front ++ back) (front ++ r :: back)
  /-- A nested block is changed in such a way. -/
  | within {layout : Layout} {front back : Block} {id : FieldId} {b c : Block} :
    (∀ r ∈ b, r.Fits) → (∀ r ∈ c, r.Fits) →
      (∀ use shape, (id, use, shape) ∈ layout.entries → Edit shape b c) →
      Edit (.block layout) (front ++ ⟨id, b.bytes⟩ :: back) (front ++ ⟨id, c.bytes⟩ :: back)

/-- **After an edit a block is the same to its reader.** -/
theorem Edit.agree {shape : Shape} (h : Edit shape b c) :
    ∃ layout, shape = .block layout ∧ layout.Agree b c := by
  induction h with
  | @insert layout front back r hunknown =>
    refine ⟨layout, rfl, Layout.agree_iff.mpr fun ⟨id, use, shape⟩ hmem => Use.agree_of_all ?_⟩
    have hne : r.id ≠ id := fun heq => hunknown use shape (heq ▸ hmem)
    rw [Block.all_append, Block.all_append, Block.all_cons, if_neg hne]
    exact List.forall₂_same.mpr fun v _ => shape.alike_refl v
  | @swap layout front back r s hne =>
    refine ⟨layout, rfl, Layout.agree_iff.mpr fun ⟨id, use, shape⟩ hmem => Use.agree_of_all ?_⟩
    have hall : Block.all (r :: s :: back) id = Block.all (s :: r :: back) id := by
      simp only [Block.all_cons]
      by_cases hr : r.id = id
      · have hs : s.id ≠ id := hr ▸ hne.symm
        simp only [if_pos hr, if_neg hs]
      · simp only [if_neg hr]
    rw [Block.all_append, Block.all_append, hall]
    exact List.forall₂_same.mpr fun v _ => shape.alike_refl v
  | @again layout front back r hlist hfront =>
    refine ⟨layout, rfl, Layout.agree_iff.mpr fun ⟨id, use, shape⟩ hmem => ?_⟩
    by_cases heq : r.id = id
    · have huse : use ≠ .listed := fun huse => hlist shape (heq ▸ huse ▸ hmem)
      refine Use.agree_of_first? shape.alike_refl huse ?_
      obtain ⟨s, hs, hid⟩ := hfront
      have hfirst : front.all id ≠ [] := by
        refine List.ne_nil_of_mem (List.mem_map_of_mem (List.mem_filter.mpr ⟨hs, ?_⟩))
        rw [hid, heq, beq_self_eq_true]
      rw [Block.first?_eq_head?, Block.first?_eq_head?, Block.all_append, Block.all_append,
        List.head?_append_of_ne_nil _ hfirst, List.head?_append_of_ne_nil _ hfirst]
    · refine Use.agree_of_all ?_
      rw [Block.all_append, Block.all_append, Block.all_cons, if_neg heq]
      exact List.forall₂_same.mpr fun v _ => shape.alike_refl v
  | @within layout front back id b c hb hc _ ih =>
    refine ⟨layout, rfl, Layout.agree_iff.mpr fun ⟨id', use, shape⟩ hmem => Use.agree_of_all ?_⟩
    have hsame (values : List ByteArray) : List.Forall₂ shape.Alike values values :=
      List.forall₂_same.mpr fun v _ => shape.alike_refl v
    rw [Block.all_append, Block.all_append, Block.all_cons, Block.all_cons]
    refine List.rel_append (hsame _) ?_
    split
    · next heq =>
      cases heq
      obtain ⟨inner, rfl, hagree⟩ := ih use shape hmem
      refine .cons (.inr ⟨b, c, Block.parse_bytes hb, Block.parse_bytes hc, hagree⟩) (hsame _)
    · exact hsame _

/-! ### Reading by a layout -/

variable {α β : Type} {layout : Layout} {shape : Shape} {use : Use}

/-- Values are read by their shape: from values that are the same to a reader the same is read, and
the valid ones are those that can be read. -/
structure Shape.Reads (shape : Shape) (g : ByteArray → Except WireError α) : Prop where
  congr {v w : ByteArray} : shape.Alike v w → g v = g w
  exists_ok_iff {v : ByteArray} : (∃ a, g v = .ok a) ↔ shape.Valid v

/-- One field of a block is read as it is asked for. -/
structure Use.Reads (use : Use) (shape : Shape) (id : FieldId) (f : Block → Except WireError α) :
    Prop where
  congr {b c : Block} : use.Agree shape.Alike id b c → f b = f c
  exists_ok_iff {b : Block} : (∃ a, f b = .ok a) ↔ use.Valid shape.Valid id b

/-- Blocks are read by their layout: from blocks that agree the same is read, and the valid blocks
are those that can be read. -/
structure Layout.Reads (layout : Layout) (f : Block → Except WireError α) : Prop where
  congr {b c : Block} : layout.Agree b c → f b = f c
  exists_ok_iff {b : Block} : (∃ a, f b = .ok a) ↔ layout.Valid b

/-- A message type is governed by a layout if its blocks are read by it. -/
def Layout.Governs (layout : Layout) (α : Type) [Message α] : Prop :=
  layout.Reads (Message.ofBlock : Block → Except WireError α)

theorem exists_bind_iff {ε : Type} {x : Except ε α} {f : α → Except ε β} :
    (∃ y, x >>= f = .ok y) ↔ ∃ a, x = .ok a ∧ ∃ y, f a = .ok y := by
  simp only [bind_eq_ok_iff]
  constructor
  · rintro ⟨y, a, ha, hy⟩
    exact ⟨a, ha, y, hy⟩
  · rintro ⟨a, ha, y, hy⟩
    exact ⟨y, a, ha, hy⟩

theorem exists_map_iff {ε : Type} {x : Except ε α} {f : α → β} :
    (∃ y, f <$> x = .ok y) ↔ ∃ a, x = .ok a := by
  cases x with
  | error e => simp [Functor.map, Except.map]
  | ok a => simp [Functor.map, Except.map]

/-- A list can be read if each of its elements can be. -/
theorem exists_mapM_iff {ε : Type} {f : α → Except ε β} {as : List α} :
    (∃ bs, as.mapM f = .ok bs) ↔ ∀ a ∈ as, ∃ b, f a = .ok b := by
  induction as with
  | nil => simp [pure, Except.pure]
  | cons a as ih =>
    rw [List.mapM_cons, exists_bind_iff, List.forall_mem_cons, ← ih]
    constructor
    · rintro ⟨b, hb, _, hrest⟩
      obtain ⟨bs, hbs, -⟩ := bind_eq_ok_iff.mp hrest
      exact ⟨⟨b, hb⟩, bs, hbs⟩
    · rintro ⟨⟨b, hb⟩, bs, hbs⟩
      exact ⟨b, hb, b :: bs, bind_eq_ok_iff.mpr ⟨bs, hbs, rfl⟩⟩

section congr

variable {ε : Type} {alike : ByteArray → ByteArray → Prop} {f : ByteArray → Except ε α}

theorem elim_congr {e : Except ε α} {x y : Option ByteArray} (h : Option.Rel alike x y)
    (hf : ∀ v w, alike v w → f v = f w) : x.elim e f = y.elim e f := by
  cases h with
  | none => rfl
  | some hvw => exact hf _ _ hvw

theorem mapM_congr {values values' : List ByteArray} (h : List.Forall₂ alike values values')
    (hf : ∀ v w, alike v w → f v = f w) : values.mapM f = values'.mapM f := by
  induction h with
  | nil => rfl
  | cons hvw _ ih => rw [List.mapM_cons, List.mapM_cons, hf _ _ hvw, ih]

end congr

/-! Values, with the first record of a field or with all of them. -/

namespace Shape.Reads

variable {g : ByteArray → Except WireError α}

/-- What is done with a value that was read makes no difference. -/
theorem map (h : shape.Reads g) (f : α → β) : shape.Reads fun v => f <$> g v where
  congr hvw := by rw [h.congr hvw]
  exists_ok_iff := exists_map_iff.trans h.exists_ok_iff

/-- Where a field is required, its absence is an error. -/
theorem required (h : shape.Reads g) (e : WireError) :
    Use.required.Reads shape id fun b => (b.first? id).elim (.error e) g where
  congr hagree := elim_congr hagree fun _ _ => h.congr
  exists_ok_iff {b} := by
    rw [Use.Valid]
    cases b.first? id with
    | none => simp
    | some v => simpa using h.exists_ok_iff

/-- Where it is optional, there is something to take its place if it is absent. A value that is
there is never replaced. -/
theorem optional (h : shape.Reads g) (d : α) :
    Use.optional.Reads shape id fun b => (b.first? id).elim (.ok d) g where
  congr hagree := elim_congr hagree fun _ _ => h.congr
  exists_ok_iff {b} := by
    rw [Use.Valid]
    cases b.first? id with
    | none => simp
    | some v => simpa using h.exists_ok_iff

theorem listed (h : shape.Reads g) :
    Use.listed.Reads shape id fun b => (b.all id).mapM g where
  congr hagree := mapM_congr hagree fun _ _ => h.congr
  exists_ok_iff := exists_mapM_iff.trans (forall₂_congr fun _ _ => h.exists_ok_iff)

end Shape.Reads

/-! Field by field. -/

namespace Layout.Reads

variable {rest : Layout}

/-- Nothing is asked for. -/
protected theorem pure (a : α) : Layout.nil.Reads fun _ => pure a where
  congr _ := rfl
  exists_ok_iff := iff_of_true ⟨a, rfl⟩ trivial

/-- **A field is read first, and what is read then does not depend on its value.** It is another
value that is returned, but neither the fields that are asked for nor the valid blocks are
others. -/
protected theorem bind {f : Block → Except WireError α} {g : α → Block → Except WireError β}
    (hf : use.Reads shape id f) (hg : ∀ a, rest.Reads (g a)) :
    (Layout.field id use shape rest).Reads fun b => f b >>= fun a => g a b where
  congr {b c} hagree := by
    obtain ⟨hfield, hrest⟩ := hagree
    rw [hf.congr hfield]
    exact bind_congr fun a => (hg a).congr hrest
  exists_ok_iff {b} := by
    rw [exists_bind_iff, Layout.Valid]
    constructor
    · rintro ⟨a, ha, hy⟩
      exact ⟨hf.exists_ok_iff.mp ⟨a, ha⟩, (hg a).exists_ok_iff.mp hy⟩
    · rintro ⟨hfield, hrest⟩
      obtain ⟨a, ha⟩ := hf.exists_ok_iff.mpr hfield
      exact ⟨a, ha, (hg a).exists_ok_iff.mpr hrest⟩

end Layout.Reads

/-! ### What governs a message type -/

namespace Layout.Governs

variable [Message α]

/-- **What is the same to a reader is read as the same**, be it a value or an error. -/
theorem decode_congr (h : layout.Governs α) (hvw : (Shape.block layout).Alike v w) :
    (Message.decode v : Except WireError α) = Message.decode w := by
  rcases hvw with rfl | ⟨b, c, hb, hc, hagree⟩
  · rfl
  · rw [Message.decode, Message.decode, hb, hc]
    exact h.congr hagree

/-- **What is edited is read as before**, however many edits there are. -/
theorem decode_eq_of_edits (h : layout.Governs α) (hb : Block.parse v = .ok b)
    (hc : Block.parse w = .ok c)
    (hedits : Relation.ReflTransGen (Edit (.block layout)) b c) :
    (Message.decode v : Except WireError α) = Message.decode w := by
  have hread : (Message.ofBlock b : Except WireError α) = Message.ofBlock c := by
    clear hc
    induction hedits with
    | refl => rfl
    | tail _ hedit ih =>
      obtain ⟨_, hshape, hagree⟩ := hedit.agree
      cases hshape
      exact ih.trans (h.congr hagree)
  rw [Message.decode, Message.decode, hb, hc]
  exact hread

/-- **What can be read is what is valid.** -/
theorem exists_decode_iff (h : layout.Governs α) :
    (∃ a : α, Message.decode v = .ok a) ↔ (Shape.block layout).Valid v := by
  rw [Shape.Valid, Message.decode, exists_bind_iff]
  exact exists_congr fun b => and_congr_right fun _ => h.exists_ok_iff

/-- Where a message type is governed by a layout, so are the messages that are nested in others. -/
theorem reads (h : layout.Governs α) :
    (Shape.block layout).Reads (Message.decode : ByteArray → Except WireError α) where
  congr := h.decode_congr
  exists_ok_iff := h.exists_decode_iff

end Layout.Governs

end Cadence.Wire
