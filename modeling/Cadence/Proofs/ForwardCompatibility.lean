import Cadence.Proofs.Layout
import Cadence.Settings.Message

/-!
# Messages of formats that have grown

Programs of different ages talk to each other, so a block may hold records that its reader does not
know. Here is what a reader may rely on: each message type has a layout, and its reader keeps to it.

That it keeps to it is shown as the readers are written, field by field. There are three ways to ask
for one: the first record is required, it is optional, or all records are taken. A reader that asks
for a field in one of these ways and goes on with what a layout governs is governed by the layout
with that field in front. Only discovery messages do not fit this pattern, since they ask for a
server if the kind of message says that there is one.

What the layouts say of values is what is written in them: so many bytes, a text, the form of one of
a few codes. They do not mention how values are read.

## Main definitions

* `Shape.width`, `Shape.text`, `Shape.bytes`, `Shape.form`: values that are no blocks
* `TimeStamp.layout`, ..., `Settings.layout`: the layouts of the message types
* `Message.KeepsTo`: what a layout has to offer to formats that grow

## Main results

* `TimeStamp.governs`, ..., `Settings.governs`: what governs the message types
* `DiscoverMessage.reads_kind`: asking for a server if there is one
* `Layout.Governs.keepsTo`, `every_message_keeps_to_its_layout`: all of it for all message types
-/

namespace Cadence

namespace Wire

variable {α β γ : Type} {b : Block} {id : FieldId} {v : ByteArray} {shape : Shape} {use : Use}

/-! ### Numbers that are read from their own bytes only -/

theorem Scalar.ofWidth_eq_ok_iff {width : Nat} {read? : ByteArray → Option α} {a : α} :
    ofWidth width read? id v = .ok a ↔ v.size = width ∧ read? v = some a := by
  refine ⟨fun h => ?_, fun h => ofWidth_eq_ok h.1 h.2⟩
  rw [ofWidth] at h
  split at h
  · next value hvalue =>
    obtain rfl := Except.ok.inj h
    exact Option.ite_none_right_eq_some.mp hvalue
  · cases h

instance : PlainScalar UInt8 where
  bytes_of_ofBytes {id bytes a} h := by
    obtain ⟨hsize, hread⟩ := Scalar.ofWidth_eq_ok_iff.mp h
    obtain ⟨byte, hbyte⟩ := Array.size_eq_one_iff.mp hsize
    rw [hbyte] at hread
    rw [← Option.some.inj hread]
    exact ByteArray.ext hbyte.symm

instance : PlainScalar UInt32 where
  bytes_of_ofBytes {id bytes w} h := by
    obtain ⟨hsize, hread⟩ := Scalar.ofWidth_eq_ok_iff.mp h
    have hextract := Word.extract_of_read32? hread
    rw [← hsize, Nat.zero_add, ByteArray.extract_zero_size] at hextract
    exact hextract.symm

theorem Block.get_eq_ok_iff [Scalar α] [PlainScalar α] {a : α} :
    b.get id = .ok a ↔ b.first? id = some (Scalar.bytes a) := by
  rw [get]
  cases b.first? id with
  | none => simp
  | some v =>
    simp only [Option.some.injEq]
    constructor
    · exact fun h => (PlainScalar.bytes_of_ofBytes h).symm
    · rintro rfl
      exact LawfulScalar.ofBytes_bytes id a

/-! ### Values that are no blocks -/

namespace Shape

/-- So many bytes. -/
def width (count : Nat) : Shape := .value (·.size = count)

/-- The UTF-8 form of a text. -/
def text : Shape := .value ByteArray.IsValidUTF8

/-- Any bytes. -/
def bytes : Shape := .value fun _ => True

/-- What one of several things looks like, of which each has a form. -/
def form [Scalar α] (formOf : β → α) : Shape := .value fun v => ∃ x, v = Scalar.bytes (formOf x)

namespace Reads

theorem value {holds : ByteArray → Prop} {g : ByteArray → Except WireError α}
    (h : ∀ v, (∃ a, g v = .ok a) ↔ holds v) : (Shape.value holds).Reads g where
  congr hvw := congrArg g hvw
  exists_ok_iff := h _

theorem width {count : Nat} {read? : ByteArray → Option α}
    (h : ∀ {v}, v.size = count → ∃ a, read? v = some a) :
    (Shape.width count).Reads (Scalar.ofWidth count read? id) := by
  refine value fun v => ?_
  rw [Scalar.ofWidth]
  by_cases hsize : v.size = count
  · obtain ⟨a, ha⟩ := h hsize
    simp [hsize, ha]
  · simp [hsize]

theorem exists_read32? {offset : Nat} (h : offset + 4 ≤ v.size) :
    ∃ w, Word.read32? v offset = some w := by
  refine Option.ne_none_iff_exists'.mp fun hnone => ?_
  have := Word.read32?_eq_none_iff.mp hnone
  omega

theorem uint32 : (Shape.width 4).Reads (Scalar.ofBytes id : _ → Except _ UInt32) :=
  width fun hsize => exists_read32? hsize.ge

theorem int32 : (Shape.width 4).Reads (Scalar.ofBytes id : _ → Except _ Int32) := by
  refine width fun {v} hsize => ?_
  obtain ⟨w, hw⟩ : ∃ w, Word.read32? v 0 = some w := exists_read32? hsize.ge
  exact ⟨w.toInt32, by rw [hw, Option.map_some]⟩

theorem uint64 : (Shape.width 8).Reads (Scalar.ofBytes id : _ → Except _ UInt64) := by
  refine width fun {v} hsize => ?_
  obtain ⟨high, hhigh⟩ : ∃ w, Word.read32? v 0 = some w := exists_read32? (by omega)
  obtain ⟨low, hlow⟩ : ∃ w, Word.read32? v (0 + 4) = some w := exists_read32? (by omega)
  exact ⟨_, by rw [Word.read64?, hhigh, hlow]⟩

theorem string : Shape.text.Reads (Scalar.ofBytes id : _ → Except _ String) := by
  refine value fun v => ?_
  simp only [Scalar.ofBytes, String.fromUTF8?]
  by_cases hvalid : v.IsValidUTF8
  · simp [hvalid]
  · simp [hvalid]

theorem byteArray : Shape.bytes.Reads (Scalar.ofBytes id : _ → Except _ ByteArray) :=
  value fun v => iff_true_intro ⟨v, rfl⟩

/-- A value that is read from its own bytes only, and is then one of several forms. -/
theorem form [Scalar α] [PlainScalar α] {formOf : β → α} {k : α → Except WireError β}
    (hform : ∀ x, k (formOf x) = .ok x) (honly : ∀ {a x}, k a = .ok x → formOf x = a) :
    (Shape.form formOf).Reads fun v => Scalar.ofBytes id v >>= k := by
  refine value fun v => ?_
  constructor
  · rintro ⟨x, hx⟩
    obtain ⟨a, ha, hka⟩ := bind_eq_ok_iff.mp hx
    refine ⟨x, ?_⟩
    rw [honly hka, PlainScalar.bytes_of_ofBytes ha]
  · rintro ⟨x, rfl⟩
    exact ⟨x, bind_eq_ok_iff.mpr ⟨formOf x, LawfulScalar.ofBytes_bytes id _, hform x⟩⟩

end Reads

end Shape

/-! ### Fields that are asked for -/

theorem eq_of_rel {x y : Option ByteArray} (h : Option.Rel (· = ·) x y) : x = y := by
  cases h with
  | none => rfl
  | some h => rw [h]

namespace Use.Reads

section scalar

variable [Scalar α]

/-- A required field, and what is made of its value. -/
theorem get_bind {k : α → Except WireError β}
    (h : shape.Reads fun v => Scalar.ofBytes id v >>= k) :
    Use.required.Reads shape id fun b => b.get id >>= k := by
  have heq (b : Block) : b.get id >>= k =
      (b.first? id).elim (.error (.missingField id)) fun v => Scalar.ofBytes id v >>= k := by
    rw [Block.get]
    cases b.first? id <;> rfl
  simpa only [heq] using h.required (.missingField id)

/-- A field with a default, and what is made of its value. -/
theorem getD_bind {k : α → Except WireError β} {default : α} {d : β} (hd : k default = .ok d)
    (h : shape.Reads fun v => Scalar.ofBytes id v >>= k) :
    Use.optional.Reads shape id fun b => b.getD id default >>= k := by
  have heq (b : Block) : b.getD id default >>= k =
      (b.first? id).elim (.ok d) fun v => Scalar.ofBytes id v >>= k := by
    rw [Block.getD]
    cases b.first? id with
    | none => exact hd
    | some v => rfl
  simpa only [heq] using h.optional d

theorem get (h : shape.Reads (Scalar.ofBytes id : _ → Except _ α)) :
    Use.required.Reads shape id fun b => (b.get id : Except _ α) := by
  simpa only [bind_pure] using get_bind (k := pure) (by simpa only [bind_pure] using h)

theorem getD {default : α} (h : shape.Reads (Scalar.ofBytes id : _ → Except _ α)) :
    Use.optional.Reads shape id fun b => b.getD id default := by
  simpa only [bind_pure] using getD_bind (k := pure) rfl (by simpa only [bind_pure] using h)

theorem get? (h : shape.Reads (Scalar.ofBytes id : _ → Except _ α)) :
    Use.optional.Reads shape id fun b => (b.get? id : Except _ (Option α)) := by
  have heq (b : Block) : (b.get? id : Except _ (Option α)) =
      (b.first? id).elim (.ok none) fun v => some <$> Scalar.ofBytes id v := by
    rw [Block.get?]
    cases b.first? id <;> rfl
  simpa only [heq] using (h.map some).optional none

end scalar

section message

variable [Message α] {layout : Layout}

theorem message (h : layout.Governs α) :
    Use.required.Reads (.block layout) id fun b => (b.message id : Except _ α) := by
  have heq (b : Block) : (b.message id : Except _ α) =
      (b.first? id).elim (.error (.missingField id)) Message.decode := by
    rw [Block.message]
    cases b.first? id <;> rfl
  simpa only [heq] using h.reads.required (.missingField id)

theorem message? (h : layout.Governs α) :
    Use.optional.Reads (.block layout) id fun b => (b.message? id : Except _ (Option α)) := by
  have heq (b : Block) : (b.message? id : Except _ (Option α)) =
      (b.first? id).elim (.ok none) fun v => some <$> Message.decode v := by
    rw [Block.message?]
    cases b.first? id <;> rfl
  simpa only [heq] using (h.reads.map some).optional none

theorem messages (h : layout.Governs α) :
    Use.listed.Reads (.block layout) id fun b => (b.messages id : Except _ (List α)) :=
  h.reads.listed

end message

end Use.Reads

/-- A field is read, something is made of its value, and then the rest is read. -/
theorem Layout.Reads.bind_bind {rest : Layout} {f : Block → Except WireError α}
    {k : α → Except WireError β} {g : β → Block → Except WireError γ}
    (hf : use.Reads shape id fun b => f b >>= k) (hg : ∀ x, rest.Reads (g x)) :
    (Layout.field id use shape rest).Reads fun b => f b >>= fun a => k a >>= fun x => g x b := by
  simpa only [bind_assoc] using Layout.Reads.bind hf hg

end Wire

open Wire

/-! ### Time stamps and envelopes -/

/-- Both numbers have defaults. -/
def TimeStamp.layout : Layout :=
  .field secondsField .optional (.width 4) <|
  .field microsecondsField .optional (.width 4) .nil

theorem TimeStamp.governs : layout.Governs TimeStamp :=
  .bind (.getD .int32) fun _ => .bind (.getD .int32) fun _ => .pure _

/-- Only the tag is required. -/
def Envelope.layout : Layout :=
  .field dataTypeField .required (.width 4) <|
  .field payloadField .optional .bytes <|
  .field sentField .optional (.block TimeStamp.layout) <|
  .field receivedField .optional (.block TimeStamp.layout) .nil

theorem Envelope.governs : layout.Governs Envelope :=
  .bind (.get .int32) fun _ => .bind (.getD .byteArray) fun _ =>
    .bind (.message? TimeStamp.governs) fun _ => .bind (.message? TimeStamp.governs) fun _ =>
      .pure _

/-! ### Information on servers -/

namespace ServerInformation

/-- The port is required, and has to fit 16 bits. -/
def layout : Layout :=
  .field portField .required (.form UInt16.toUInt32) <|
  .field addressField .optional .text <|
  .field levelField .optional (.form ManagedLevel.code) .nil

theorem toUInt32_of_portOfWord {word : UInt32} {port : UInt16} (h : portOfWord word = .ok port) :
    port.toUInt32 = word := by
  rw [portOfWord] at h
  split at h
  · next hlt =>
    rw [← Except.ok.inj h]
    apply UInt32.toNat_inj.mp
    rw [UInt16.toNat_toUInt32, UInt32.toNat_toUInt16]
    exact Nat.mod_eq_of_lt hlt
  · cases h

theorem code_of_ofCode {field : FieldId} {code : UInt8} {level : ManagedLevel}
    (h : ManagedLevel.ofCode field code = .ok level) : level.code = code := by
  unfold ManagedLevel.ofCode at h
  split at h <;> cases h <;> rfl

theorem governs : layout.Governs ServerInformation :=
  .bind_bind (.get_bind (.form portOfWord_toUInt32 toUInt32_of_portOfWord)) fun _ =>
    .bind (.getD .string) fun _ =>
      .bind_bind (.getD_bind rfl (.form (ManagedLevel.ofCode_code _) code_of_ofCode)) fun _ =>
        .pure _

end ServerInformation

/-! ### Descriptors -/

/-- Only the name is required. -/
def Descriptor.layout : Layout :=
  .field nameField .required .text <|
  .field instanceField .optional (.width 4) <|
  .field versionField .optional .text .nil

theorem Descriptor.governs : layout.Governs Descriptor :=
  .bind (.get .string) fun _ => .bind (.get? .uint32) fun _ => .bind (.getD .string) fun _ =>
    .pure _

/-! ### Discovery -/

namespace DiscoverMessage

/-- Name and kind are required. A server is asked for if the message is a response. -/
def layout : Layout :=
  .field moduleField .required .text <|
  .field kindField .required (.value (· ∈ [discoverCode, responseCode].map Scalar.bytes)) <|
  .field serverField (.requiredIf kindField (Scalar.bytes responseCode))
    (.block ServerInformation.layout) .nil

/-- What is read behind the name. Whether a server is asked for depends on the kind, so that the two
fields are looked at together. -/
theorem reads_kind (name : String) :
    (Layout.field kindField .required
      (.value (· ∈ [discoverCode, responseCode].map Scalar.bytes)) <|
      .field serverField (.requiredIf kindField (Scalar.bytes responseCode))
        (.block ServerInformation.layout) .nil).Reads fun b => b.get kindField >>= fun kind =>
          if kind = discoverCode then pure (discover name)
          else if kind = responseCode then
            b.message serverField >>= fun server => pure (response name server)
          else throw (.invalidValue kindField (.unknownCode "discover message type" kind)) where
  congr {b c} hagree := by
    obtain ⟨hkind, hserver, -⟩ := hagree
    have hfirst : b.first? kindField = c.first? kindField := eq_of_rel hkind
    have hget : (b.get kindField : Except WireError UInt8) = c.get kindField := by
      rw [Block.get, Block.get, hfirst]
    rw [hget]
    cases hkind : (c.get kindField : Except WireError UInt8) with
    | error e => rfl
    | ok kind =>
      by_cases hresponse : kind = responseCode
      · subst hresponse
        have hc : c.first? kindField = some (Scalar.bytes responseCode) :=
          Block.get_eq_ok_iff.mp hkind
        have hmessage : (b.message serverField : Except WireError ServerInformation) =
            c.message serverField :=
          (Use.Reads.message ServerInformation.governs).congr (hserver (hfirst.trans hc) hc)
        simp only [hmessage]
      · simp only [bind, Except.bind, if_neg hresponse]
  exists_ok_iff {b} := by
    rw [exists_bind_iff]
    constructor
    · rintro ⟨kind, hkind, m, hm⟩
      have hfirst := Block.get_eq_ok_iff.mp hkind
      split at hm
      · next hdiscover =>
        subst hdiscover
        refine ⟨⟨_, hfirst, List.mem_cons_self⟩, fun hresponse => ?_, trivial⟩
        cases hfirst.symm.trans hresponse
      · split at hm
        · next hresponse =>
          subst hresponse
          obtain ⟨server, hserver, -⟩ := bind_eq_ok_iff.mp hm
          exact ⟨⟨_, hfirst, List.mem_cons_of_mem _ List.mem_cons_self⟩, fun _ =>
            (Use.Reads.message ServerInformation.governs).exists_ok_iff.mp ⟨server, hserver⟩,
            trivial⟩
        · cases hm
    · rintro ⟨⟨v, hfirst, hv⟩, hserver, -⟩
      obtain ⟨kind, hkind, rfl⟩ := List.mem_map.mp hv
      refine ⟨kind, Block.get_eq_ok_iff.mpr hfirst, ?_⟩
      rcases List.mem_pair.mp hkind with rfl | rfl
      · exact ⟨discover name, rfl⟩
      · obtain ⟨server, hserver⟩ :=
          (Use.Reads.message ServerInformation.governs).exists_ok_iff.mpr (hserver hfirst)
        exact ⟨response name server, bind_eq_ok_iff.mpr ⟨server, hserver, rfl⟩⟩

theorem governs : layout.Governs DiscoverMessage :=
  .bind (.get .string) fun name => reads_kind name

end DiscoverMessage

/-! ### Pulses -/

/-- Only the tick is required. -/
def Pulse.layout : Layout :=
  .field tickField .required (.width 4) <|
  .field realTimeField .optional (.block TimeStamp.layout) <|
  .field nominalField .optional (.width 4) <|
  .field cumulatedField .optional (.width 8) <|
  .field offsetField .optional (.width 4) .nil

theorem Pulse.governs : layout.Governs Pulse :=
  .bind (.get .uint32) fun _ => .bind (.message? TimeStamp.governs) fun _ =>
    .bind (.getD .uint32) fun _ => .bind (.getD .uint64) fun _ => .bind (.getD .uint32) fun _ =>
      .pure _

/-- A tick, and as many envelopes as there are. -/
def PulseAck.layout : Layout :=
  .field Pulse.tickField .required (.width 4) <|
  .field envelopeField .listed (.block Envelope.layout) .nil

theorem PulseAck.governs : layout.Governs PulseAck :=
  .bind (.get .uint32) fun _ => .bind (.messages Envelope.governs) fun _ => .pure _

/-! ### Beginning and end, and settings -/

def StateCommand.layout : Layout :=
  .field stateField .required (.form ModuleState.code) .nil

theorem ModuleState.code_of_ofCode {field : FieldId} {code : UInt8} {state : ModuleState}
    (h : ofCode field code = .ok state) : state.code = code := by
  unfold ofCode at h
  split at h <;> cases h <;> rfl

theorem StateCommand.governs : layout.Governs StateCommand :=
  .bind_bind (.get_bind (.form (ModuleState.ofCode_code _) ModuleState.code_of_ofCode)) fun _ =>
    .pure _

def ExitNotice.layout : Layout :=
  .field exitCodeField .required (.form ExitCode.code) .nil

theorem ExitCode.code_of_ofCode {field : FieldId} {code : UInt8} {exitCode : ExitCode}
    (h : ofCode field code = .ok exitCode) : exitCode.code = code := by
  unfold ofCode at h
  split at h <;> cases h <;> rfl

theorem ExitNotice.governs : layout.Governs ExitNotice :=
  .bind_bind (.get_bind (.form (ExitCode.ofCode_code _) ExitCode.code_of_ofCode)) fun _ =>
    .pure _

/-- No text is an empty one. -/
def Settings.layout : Layout :=
  .field textField .optional .text .nil

theorem Settings.governs : layout.Governs Settings :=
  .bind (.getD .string) fun _ => .pure _

/-! ### All messages -/

/-- A message type keeps to its layout. -/
structure Wire.Message.KeepsTo (α : Type) [Message α] (layout : Layout) : Prop where
  /-- Nothing but what is asked for decides what is read, or which error there is. -/
  same {v w : ByteArray} : (Shape.block layout).Alike v w →
    (Message.decode v : Except WireError α) = Message.decode w
  /-- Edits make no difference, in the block or in those that are nested in it. -/
  edited {b c : Block} {v w : ByteArray} : Block.parse v = .ok b → Block.parse w = .ok c →
    Relation.ReflTransGen (Edit (.block layout)) b c →
    (Message.decode v : Except WireError α) = Message.decode w
  /-- What is malformed is an error, if it is the first value of a field that is asked for. -/
  malformed {b : Block} {v value : ByteArray} {id : FieldId} {use : Use} {shape : Shape} :
    Block.parse v = .ok b → (id, use, shape) ∈ layout.entries → use.Asks b →
    b.first? id = some value → ¬ shape.Valid value →
    ∃ e, (Message.decode v : Except WireError α) = .error e
  /-- Everything else can be read, if nothing is missing. -/
  readable {v : ByteArray} : (∃ a : α, Message.decode v = .ok a) ↔ (Shape.block layout).Valid v

theorem Wire.Layout.Governs.keepsTo {α : Type} [Message α] {layout : Layout}
    (h : layout.Governs α) : Message.KeepsTo α layout where
  same := h.decode_congr
  edited := h.decode_eq_of_edits
  malformed {b v _ _ _ _} hb he hasks hfirst hvalue := by
    cases hdecode : (Message.decode v : Except WireError α) with
    | error e => exact ⟨e, rfl⟩
    | ok a =>
      obtain ⟨c, hc, hvalid⟩ := h.exists_decode_iff.mp ⟨a, hdecode⟩
      cases hb.symm.trans hc
      exact absurd hvalid (Layout.not_valid_of_malformed he hasks hfirst hvalue)
  readable := h.exists_decode_iff

/-- **Every message type keeps to its layout.** What is read from a block, be it a message or an
error, is decided by the first records of the fields in the layout, and by all records of the
envelopes in an acknowledgement. Records that are unknown, that come in another order or that repeat
a field go unnoticed, in nested blocks too. What is malformed is never taken for absent. -/
theorem Wire.every_message_keeps_to_its_layout :
    Message.KeepsTo TimeStamp TimeStamp.layout ∧
    Message.KeepsTo Envelope Envelope.layout ∧
    Message.KeepsTo ServerInformation ServerInformation.layout ∧
    Message.KeepsTo Descriptor Descriptor.layout ∧
    Message.KeepsTo DiscoverMessage DiscoverMessage.layout ∧
    Message.KeepsTo Pulse Pulse.layout ∧
    Message.KeepsTo PulseAck PulseAck.layout ∧
    Message.KeepsTo StateCommand StateCommand.layout ∧
    Message.KeepsTo ExitNotice ExitNotice.layout ∧
    Message.KeepsTo Settings Settings.layout :=
  ⟨TimeStamp.governs.keepsTo, Envelope.governs.keepsTo, ServerInformation.governs.keepsTo,
    Descriptor.governs.keepsTo, DiscoverMessage.governs.keepsTo, Pulse.governs.keepsTo,
    PulseAck.governs.keepsTo, StateCommand.governs.keepsTo, ExitNotice.governs.keepsTo,
    Settings.governs.keepsTo⟩

end Cadence
