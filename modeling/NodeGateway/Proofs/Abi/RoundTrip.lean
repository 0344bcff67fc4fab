import NodeGateway.Abi.Codec
import NodeGateway.Proofs.Text.Utf8

/-!
# What Is Encoded Can Be Decoded

A value of any type that contracts take or return is decoded from its standard encoding
(`AbiTypes.decode?_encode`), as long as the encoding is short enough for a word to hold every offset
in it.

The encoder puts a value together from parts, and the decoder finds its way by offsets, so the two
do not follow the same recursion. What they have in common is where things are. A piece of the data
**is at** a place (`Abi.At`) if it begins there; a part **stands** at a place (`Abi.Part.Stands`) if
its content is there, or the offset of its content. The argument has two halves:

* what is put together from parts stands where the sizes of the parts before it say
  (`Abi.standing_of_at`), and
* a value that stands somewhere is decoded from there (`AbiType.decode?_of_stands`), by induction on
  the type.

## Main definitions

* `Abi.At`, `Abi.Part.Stands`, `Abi.Standing`;
* `AbiType.Fits`, the values that the words of an encoding have room for.
-/

namespace NodeGateway

namespace Bytes

/-- One more byte behind others. -/
theorem toNat_concat (bytes : Bytes) (b : UInt8) :
    toNat (bytes ++ [b]) = 256 * toNat bytes + b.toNat := by
  rw [toNat, List.foldl_append]
  rfl

/-- A number is read back from as many bytes as it needs. -/
theorem toNat_ofNat {size n : Nat} (h : n < Nat.pow 256 size) : toNat (ofNat size n) = n := by
  induction size generalizing n with
  | zero => exact (Nat.lt_one_iff.mp h).symm
  | succ size ih =>
      have hhigh : n / 256 < Nat.pow 256 size := Nat.div_lt_of_lt_mul (by rwa [Nat.mul_comm])
      have hlow : (UInt8.ofNat (n % 256)).toNat = n % 256 :=
        Utf8.toNat_ofNat (Nat.mod_lt n (by decide))
      rw [ofNat, toNat_concat, ih hhigh, hlow, Nat.div_add_mod]

end Bytes

namespace Abi

/-! ### Places -/

/-- A piece of the data **is at** a place. -/
def At (data : Bytes) (start : Nat) (piece : Bytes) : Prop :=
  ∃ before after, data = before ++ piece ++ after ∧ before.length = start

namespace At

variable {data piece first second : Bytes} {start : Nat}

/-- All of the data is at its beginning. -/
theorem zero (data : Bytes) : At data 0 data := ⟨[], [], by simp, rfl⟩

/-- A piece does not reach beyond the data. -/
theorem le_length (h : At data start piece) : start + piece.length ≤ data.length := by
  obtain ⟨before, after, rfl, rfl⟩ := h
  simp

/-- What a piece begins with is where the piece is. -/
theorem left (h : At data start (first ++ second)) : At data start first := by
  obtain ⟨before, after, rfl, hstart⟩ := h
  exact ⟨before, second ++ after, by simp, hstart⟩

/-- What a piece goes on with is behind what it begins with. -/
theorem right (h : At data start (first ++ second)) : At data (start + first.length) second := by
  obtain ⟨before, after, rfl, rfl⟩ := h
  exact ⟨before ++ first, after, by simp, by simp⟩

/-- A piece is at the beginning of the data from its place on. -/
theorem drop (h : At data start piece) : At (data.drop start) 0 piece := by
  obtain ⟨before, after, rfl, rfl⟩ := h
  exact ⟨[], after, by simp, rfl⟩

/-- A piece can be cut out. -/
theorem slice? (h : At data start piece) : slice? data start piece.length = some piece := by
  rw [Abi.slice?, if_pos h.le_length]
  obtain ⟨before, after, rfl, rfl⟩ := h
  simp

end At

/-! ### Words -/

/-- What a **word** can hold: the numbers below this. -/
def wordBound : Nat := Nat.pow 256 32

theorem length_word (n : Nat) : (word n).length = 32 := Bytes.length_ofNat 32 n

section Words

variable {data bytes : Bytes} {start n : Nat}

/-- A number that fits a word is read back. -/
theorem nat?_of_at (h : At data start (word n)) (hn : n < wordBound) :
    nat? data start = some n := by
  have hword := h.slice?
  rw [length_word] at hword
  rw [nat?, word?, hword, Option.map_some, word, Bytes.toNat_ofNat hn]

/-- An offset leads to the data from there on. -/
theorem follow?_of_at {offset : Nat} (h : At data start (word offset))
    (hoffset : offset < wordBound) (hle : offset ≤ data.length) :
    follow? data start = some (data.drop offset) := by
  rw [follow?, nat?_of_at h hoffset, Option.bind_eq_bind, Option.bind_some, if_pos hle]

/-- A byte string is read back from behind its length. -/
theorem counted?_of_at (hdata : data.length < wordBound) (h : At data 0 (lengthPrefixed bytes)) :
    counted? data = some bytes := by
  have hbytes : At data 32 bytes := by
    have hpadded := h.right
    rw [length_word, Nat.zero_add] at hpadded
    exact hpadded.left
  have hle := hbytes.le_length
  rw [counted?, nat?_of_at h.left (by omega), Option.bind_eq_bind, Option.bind_some, hbytes.slice?]

/-- An address takes up one word. -/
theorem length_addressWord (address : Address) :
    (List.replicate 12 0 ++ address.val).length = 32 := by simp [address.property]

/-- An address is read back from the end of its word. -/
theorem address?_of_at {address : Address}
    (h : At data start (List.replicate 12 0 ++ address.val)) :
    address? data start = some address := by
  have hword := h.slice?
  rw [length_addressWord] at hword
  have hdrop : (List.replicate 12 0 ++ address.val).drop 12 = address.val := by
    rw [List.drop_append_of_le_length (by simp)]
    simp
  rw [address?, word?, hword, Option.bind_eq_bind, Option.bind_some, hdrop, FixedBytes.ofBytes?,
    dif_pos address.property]

end Words

/-! ### Parts -/

/-- A part **stands** at a place if its content is there, or the offset of its content. -/
def Part.Stands (part : Part) (data : Bytes) (start : Nat) : Prop :=
  if part.dynamic then
    ∃ offset, offset < wordBound ∧ At data start (word offset) ∧ At data offset part.content
  else At data start part.content

/-- Parts that stand one after another. -/
def Standing (data : Bytes) : (start : Nat) → List Part → Prop
  | _, [] => True
  | start, part :: parts => part.Stands data start ∧ Standing data (start + part.headSize) parts

/-- The heads of parts are as long as their sizes say. -/
theorem length_heads (start : Nat) (parts : List Part) :
    (heads start parts).length = headsSize parts := by
  induction parts generalizing start with
  | nil => rfl
  | cons part parts ih =>
      rw [heads, headsSize, Part.headSize]
      split <;> simp [length_word, ih]

/-- **Parts that are put together stand where they belong**: their heads one after another, and the
contents of the dynamic ones behind each other wherever the first head says. -/
theorem standing_of_at {data : Bytes} (hdata : data.length < wordBound) {start tail : Nat}
    {parts : List Part} (hheads : At data start (heads tail parts))
    (htails : At data tail (tails parts)) : Standing data start parts := by
  induction parts generalizing start tail with
  | nil => trivial
  | cons part parts ih =>
      obtain ⟨dynamic, content⟩ := part
      cases dynamic with
      | true =>
          have hle := htails.le_length
          have hrest := hheads.right
          rw [length_word] at hrest
          exact ⟨⟨tail, by omega, hheads.left, htails.left⟩, ih hrest htails.right⟩
      | false => exact ⟨hheads.left, ih hheads.right htails⟩

/-- Heads of parts in place do not depend on where the contents of others start. -/
theorem heads_of_static {parts : List Part} (h : ∀ part ∈ parts, part.dynamic = false)
    (start other : Nat) : heads start parts = heads other parts := by
  induction parts with
  | nil => rfl
  | cons part parts ih =>
      obtain ⟨hpart, hparts⟩ := List.forall_mem_cons.mp h
      simp only [heads, hpart, Bool.false_eq_true, if_false, ih hparts]

/-- Parts in place have nothing behind their heads. -/
theorem tails_of_static {parts : List Part} (h : ∀ part ∈ parts, part.dynamic = false) :
    tails parts = [] := by
  induction parts with
  | nil => rfl
  | cons part parts ih =>
      obtain ⟨hpart, hparts⟩ := List.forall_mem_cons.mp h
      rw [tails, hpart, ih hparts]
      rfl

/-- Parts in place are as long as their heads when they are put together. -/
theorem length_assemble_of_static {parts : List Part} (h : ∀ part ∈ parts, part.dynamic = false) :
    (assemble parts).length = headsSize parts := by
  rw [assemble, tails_of_static h, List.append_nil, length_heads]

/-- A part in place takes up what its content is long. -/
theorem headSize_inPlace {content : Bytes} {size : Nat} (h : content.length = size) :
    Part.headSize ⟨false, content⟩ = size := h

/-- The parts of an assembly at the beginning of the data stand there. -/
theorem standing_of_assemble {data : Bytes} (hdata : data.length < wordBound) {parts : List Part}
    (h : At data 0 (assemble parts)) : Standing data 0 parts := by
  have htails := h.right
  rw [length_heads, Nat.zero_add] at htails
  exact standing_of_at hdata h.left htails

/-- The parts of an assembly without offsets stand wherever it is. -/
theorem standing_of_static {data : Bytes} (hdata : data.length < wordBound) {start : Nat}
    {parts : List Part} (hstatic : ∀ part ∈ parts, part.dynamic = false)
    (h : At data start (assemble parts)) : Standing data start parts := by
  have hheads := h.left
  have htails := h.right
  rw [length_heads] at htails
  rw [heads_of_static hstatic _ (start + headsSize parts)] at hheads
  exact standing_of_at hdata hheads htails

/-- A dynamic part is found by its offset, in data that is no longer. -/
theorem follow?_of_stands {data content : Bytes} (hdata : data.length < wordBound) {start : Nat}
    (h : Part.Stands ⟨true, content⟩ data start) :
    ∃ rest, follow? data start = some rest ∧ At rest 0 content ∧ rest.length < wordBound := by
  obtain ⟨offset, hoffset, hword, hcontent⟩ := h
  have hle := hcontent.le_length
  refine ⟨data.drop offset, follow?_of_at hword hoffset (by omega), hcontent.drop, ?_⟩
  rw [List.length_drop]
  omega

/-- A byte string is read back from where its offset leads. -/
theorem counted?_of_stands {data bytes : Bytes} (hdata : data.length < wordBound) {start : Nat}
    (h : Part.Stands ⟨true, lengthPrefixed bytes⟩ data start) :
    (follow? data start).bind counted? = some bytes := by
  obtain ⟨rest, hfollow, hcontent, hrest⟩ := follow?_of_stands hdata h
  rw [hfollow, Option.bind_some, counted?_of_at hrest hcontent]

/-- Parts that take up space are no more than the bytes of their heads. -/
theorem length_le_headsSize {parts : List Part} (h : ∀ part ∈ parts, 0 < part.headSize) :
    parts.length ≤ headsSize parts := by
  induction parts with
  | nil => exact Nat.le_refl 0
  | cons part parts ih =>
      obtain ⟨hpart, hparts⟩ := List.forall_mem_cons.mp h
      have := ih hparts
      rw [headsSize, List.length_cons]
      omega

/-- Items that are decoded from where they stand are decoded one after another. -/
theorem items?_of_standing {α : Type} {decode : Nat → Option α} {part : α → Part} {size : Nat}
    {data : Bytes} {values : List α} {start : Nat} (hsize : ∀ value, (part value).headSize = size)
    (hdecode : ∀ value ∈ values, ∀ place, (part value).Stands data place →
      decode place = some value)
    (h : Standing data start (values.map part)) :
    items? decode size values.length start = some values := by
  induction values generalizing start with
  | nil => rfl
  | cons value values ih =>
      obtain ⟨hvalue, hvalues⟩ := List.forall_mem_cons.mp hdecode
      obtain ⟨hfirst, hrest⟩ := h
      rw [hsize] at hrest
      rw [List.length_cons, items?, hvalue start hfirst, ih hvalues hrest]
      rfl

end Abi

/-! ### Values -/

/-- A value as a part of what is put together. -/
abbrev AbiType.part (type : AbiType) (value : type.Value) : Abi.Part :=
  ⟨type.isDynamic, type.encode value⟩

mutual

/-- The values that an encoding has **room** for: numbers of as many bits as their type says, and
arrays whose items take up space, without which no decoder believes their count. -/
def AbiType.Fits : (type : AbiType) → type.Value → Prop
  | .uint bits, (n : Nat) => n < Nat.pow 2 bits ∧ n < Abi.wordBound
  | .bool, _ | .address, _ | .bytes, _ | .string, _ => True
  | .array item, (values : List item.Value) =>
    0 < item.headSize ∧ ∀ value ∈ values, item.Fits value
  | .tuple items, values => items.Fits values

/-- The lists of values that an encoding has room for. -/
def AbiTypes.Fits : (types : AbiTypes) → types.Values → Prop
  | .nil, _ => True
  | .cons head tail, (value, values) => head.Fits value ∧ tail.Fits values

end

/-- The values of types that are not dynamic are all written in place. -/
theorem AbiTypes.static_parts : ∀ (types : AbiTypes) (values : types.Values),
    types.isDynamic = false → ∀ part ∈ types.parts values, part.dynamic = false
  | .nil, _, _ => by simp [AbiTypes.parts]
  | .cons head tail, (value, values), h => by
      obtain ⟨hhead, htail⟩ := Bool.or_eq_false_iff.mp h
      exact List.forall_mem_cons.mpr ⟨hhead, tail.static_parts values htail⟩

mutual

/-- A value takes up as much space as its type says. -/
theorem AbiType.headSize_part : ∀ (type : AbiType) (value : type.Value),
    (type.part value).headSize = type.headSize
  | .uint _, (n : Nat) => Abi.headSize_inPlace (Abi.length_word n)
  | .bool, (b : Bool) => Abi.headSize_inPlace (Abi.length_word b.toNat)
  | .address, (a : Address) => Abi.headSize_inPlace (Abi.length_addressWord a)
  | .bytes, _ | .string, _ | .array _, _ => rfl
  | .tuple items, values => by
      have hitems := items.headsSize_parts values
      rw [AbiType.part, AbiType.isDynamic, AbiType.encode, AbiType.headSize]
      cases hdynamic : items.isDynamic with
      | true => rfl
      | false =>
          rw [← hitems]
          exact Abi.headSize_inPlace
            (Abi.length_assemble_of_static (items.static_parts values hdynamic))

/-- Values take up as much space as their types say. -/
theorem AbiTypes.headsSize_parts : ∀ (types : AbiTypes) (values : types.Values),
    Abi.headsSize (types.parts values) = types.headSize
  | .nil, _ => rfl
  | .cons head tail, (value, values) => by
      rw [AbiTypes.parts, Abi.headsSize, head.headSize_part value, tail.headsSize_parts values,
        AbiTypes.headSize]

end

/-- The items of an array are found behind their count. -/
theorem AbiType.decode?_array {item : AbiType} {values : List item.Value} {data : Bytes}
    (hdata : data.length < Abi.wordBound) {start : Nat} (hsize : 0 < item.headSize)
    (hitems : ∀ value ∈ values, ∀ content : Bytes, content.length < Abi.wordBound →
      ∀ place, (item.part value).Stands content place → item.decode? content place = some value)
    (h : ((AbiType.array item).part values).Stands data start) :
    (AbiType.array item).decode? data start = some values := by
  obtain ⟨rest, hfollow, hcontent, hrest⟩ := Abi.follow?_of_stands hdata h
  have hplace := hcontent.right
  rw [Abi.length_word, Nat.zero_add] at hplace
  have hparts : Abi.At (rest.drop 32) 0 (Abi.assemble (values.map item.part)) := hplace.drop
  have hlength : (rest.drop 32).length < Abi.wordBound := by
    rw [List.length_drop]
    omega
  -- every item takes up space, so there are no more of them than bytes
  have hcount : values.length ≤ (rest.drop 32).length := by
    have hheads := hparts.left.le_length
    have hle : (values.map item.part).length ≤ Abi.headsSize (values.map item.part) :=
      Abi.length_le_headsSize fun part hpart => by
        obtain ⟨value, -, rfl⟩ := List.mem_map.mp hpart
        rwa [item.headSize_part value]
    rw [Abi.length_heads] at hheads
    rw [List.length_map] at hle
    omega
  have hdecoded := Abi.items?_of_standing item.headSize_part
    (fun value hvalue place => hitems value hvalue (rest.drop 32) hlength place)
    (Abi.standing_of_assemble hlength hparts)
  have hread : Abi.nat? rest 0 = some values.length := Abi.nat?_of_at hcontent.left (by omega)
  change ((Abi.follow? data start).bind fun content => (Abi.nat? content 0).bind fun count =>
    if count ≤ (content.drop 32).length then
      Abi.items? (item.decode? (content.drop 32)) item.headSize count 0
    else none) = some values
  rw [hfollow, Option.bind_some, hread, Option.bind_some, if_pos hcount, hdecoded]

/-- The values of a tuple are found in place or by its offset. -/
theorem AbiType.decode?_tuple {items : AbiTypes} {values : items.Values} {data : Bytes}
    (hdata : data.length < Abi.wordBound) {start : Nat}
    (hitems : ∀ content : Bytes, content.length < Abi.wordBound → ∀ place,
      Abi.Standing content place (items.parts values) → items.decode? content place = some values)
    (h : ((AbiType.tuple items).part values).Stands data start) :
    (AbiType.tuple items).decode? data start = some values := by
  change Abi.Part.Stands ⟨items.isDynamic, Abi.assemble (items.parts values)⟩ data start at h
  change (if items.isDynamic then
    (Abi.follow? data start).bind fun content => items.decode? content 0
    else items.decode? data start) = some values
  cases hdynamic : items.isDynamic with
  | true =>
      rw [hdynamic] at h
      obtain ⟨rest, hfollow, hcontent, hrest⟩ := Abi.follow?_of_stands hdata h
      rw [if_pos rfl, hfollow, Option.bind_some]
      exact hitems rest hrest 0 (Abi.standing_of_assemble hrest hcontent)
  | false =>
      rw [hdynamic] at h
      exact hitems data hdata start
        (Abi.standing_of_static hdata (items.static_parts values hdynamic) h)

mutual

/-- **A value that stands somewhere is decoded from there.** -/
theorem AbiType.decode?_of_stands : ∀ (type : AbiType) (value : type.Value), type.Fits value →
    ∀ data : Bytes, data.length < Abi.wordBound → ∀ start, (type.part value).Stands data start →
      type.decode? data start = some value
  | .uint bits, n, hfits, data, _, start, h => by
      rw [AbiType.decode?, Abi.nat?_of_at h hfits.2]
      exact congrArg some (Nat.mod_eq_of_lt hfits.1)
  | .bool, b, _, data, _, start, h => by
      have hbit : Bool.toNat b < Abi.wordBound := Nat.lt_of_le_of_lt b.toNat_le (by decide)
      rw [AbiType.decode?, Abi.nat?_of_at h hbit]
      cases b <;> rfl
  | .address, address, _, data, _, start, h => Abi.address?_of_at h
  | .bytes, bytes, _, data, hdata, start, h => Abi.counted?_of_stands hdata h
  | .string, s, _, data, hdata, start, h => by
      have hbytes := Abi.counted?_of_stands hdata h
      refine (congrArg (Option.map fun bytes => String.ofList (Utf8.decode bytes)) hbytes).trans ?_
      rw [Option.map_some, Utf8.decode_encode]
      exact congrArg some String.ofList_toList
  | .array item, values, hfits, data, hdata, start, h =>
      AbiType.decode?_array hdata hfits.1
        (fun value hvalue content hcontent place =>
          item.decode?_of_stands value (hfits.2 value hvalue) content hcontent place) h
  | .tuple items, values, hfits, data, hdata, start, h =>
      AbiType.decode?_tuple hdata (items.decode?_of_standing values hfits) h

/-- Values that stand one after another are decoded from there. -/
theorem AbiTypes.decode?_of_standing : ∀ (types : AbiTypes) (values : types.Values),
    types.Fits values → ∀ data : Bytes, data.length < Abi.wordBound → ∀ start,
      Abi.Standing data start (types.parts values) → types.decode? data start = some values
  | .nil, _, _, _, _, _, _ => rfl
  | .cons head tail, (value, values), hfits, data, hdata, start, h => by
      obtain ⟨hvalue, hvalues⟩ := h
      rw [head.headSize_part value] at hvalues
      rw [AbiTypes.decode?, head.decode?_of_stands value hfits.1 data hdata start hvalue,
        Option.bind_eq_bind, Option.bind_some,
        tail.decode?_of_standing values hfits.2 data hdata _ hvalues]
      rfl

end

/-- **What is encoded can be decoded**, as long as a word can hold every offset. -/
theorem AbiTypes.decode?_encode (types : AbiTypes) (values : types.Values)
    (hfits : types.Fits values) (hlength : (types.encode values).length < Abi.wordBound) :
    types.decodeReturned? (types.encode values) = some values :=
  types.decode?_of_standing values hfits _ hlength 0
    (Abi.standing_of_assemble hlength (.zero _))

end NodeGateway
