import SqlTemplate.Proofs.Json.Reader
import SqlTemplate.Proofs.Number.Token

/-!
# Encoded values are read back

Every value is encoded as the compact text of a tree, `Json.ofValue`, whatever texts it holds and
however deep it is nested (`Json.spells_encode`). So the tree is read back from the encoding
(`Json.read_encode`), and an encoding takes one line (`Json.visible_encode`).

The tree tells less than the value: containers of all kinds become arrays and objects, and what has
no form of its own becomes a text. Bytes are not lost on the way: `Json.bytes?` gives them back from
their base64 text (`Json.bytes?_base64`).
-/

namespace SqlTemplate.Json

/-! ## The tree of a value -/

/-- The content of the key that a value becomes. -/
def keyText : Value → Text
  | .int n => Text.integer n
  | .float x => keyNumber x
  | .member _ value => keyText value
  | .mixed _ core _ => keyText core
  | v => textForm v

/-- The tree of a container, or the text of one that has no form of its own. -/
def containerTree (plain : Bool) (form : Tree) (shown : Text) : Tree :=
  if plain then form else .text shown

mutual

def ofValue : Value → Tree
  | .null => .word "null".toList
  | .bool b => .word (if b then "true".toList else "false".toList)
  | .int n => .word (Text.integer n)
  | .float x => .word (number x)
  | .member _ value => ofValue value
  | .mixed _ core _ => ofValue core
  | .sequence kind items =>
    containerTree (isList kind) (.array (ofItems items)) (Value.displayed (.sequence kind items))
  | .set kind items =>
    containerTree (isSet kind) (.array (ofItems items)) (Value.displayed (.set kind items))
  | .mapping kind entries =>
    containerTree (isDictionary kind) (.object (ofEntries entries))
      (Value.displayed (.mapping kind entries))
  | .object cls core payload => ofBuilt (textForm (.object cls core payload)) core
  | .selfWriting cls program core payload =>
    ofBuilt (textForm (.selfWriting cls program core payload)) core
  | v => .text (textForm v)

/-- The tree of a value of a declared class that is built on a predefined one. -/
def ofBuilt (shown : Text) : Value → Tree
  | .sequence kind items => containerTree (isList kind) (.array (ofItems items)) shown
  | .set kind items => containerTree (isSet kind) (.array (ofItems items)) shown
  | .mapping kind entries => containerTree (isDictionary kind) (.object (ofEntries entries)) shown
  | _ => .text shown

def ofItems : List Value → List Tree
  | [] => []
  | v :: rest => ofValue v :: ofItems rest

def ofEntries : List (Value × Value) → List (Text × Tree)
  | [] => []
  | (k, v) :: rest => (keyText k, ofValue v) :: ofEntries rest

end

/-- A key is a quoted text. -/
theorem encodeKey_eq (v : Value) : encodeKey v = quoted (keyText v) := by
  fun_induction encodeKey v with
  | case1 n => rw [keyText]
  | case2 x => rw [keyText]
  | case3 _ value ih => rw [keyText, ih]
  | case4 _ core _ ih => rw [keyText, ih]
  | case5 v => rw [keyText] <;> assumption

theorem encodeItems_eq_map (items : List Value) : encodeItems items = items.map encode := by
  induction items with
  | nil => rfl
  | cons v rest ih => rw [encodeItems, ih, List.map_cons]

theorem ofItems_eq_map (items : List Value) : ofItems items = items.map ofValue := by
  induction items with
  | nil => rfl
  | cons v rest ih => rw [ofItems, ih, List.map_cons]

theorem encodeEntries_eq_map (entries : List (Value × Value)) :
    encodeEntries entries = entries.map fun e => (quoted (keyText e.1), encode e.2) := by
  induction entries with
  | nil => rfl
  | cons e rest ih => rw [encodeEntries, ih, List.map_cons, encodeKey_eq]

theorem ofEntries_eq_map (entries : List (Value × Value)) :
    ofEntries entries = entries.map fun e => (keyText e.1, ofValue e.2) := by
  induction entries with
  | nil => rfl
  | cons e rest ih => rw [ofEntries, ih, List.map_cons]

/-! ## Encodings are spellings -/

theorem spells_container {plain : Bool} {form : Tree} {t : Text} (h : Spells form t)
    (shown : Text) : Spells (containerTree plain form shown) (container plain t shown) := by
  cases plain with
  | true => exact h
  | false => exact .text shown

theorem spells_array {items : List Value} (h : ∀ v ∈ items, Spells (ofValue v) (encode v)) :
    Spells (.array (ofItems items)) (array (encodeItems items)) := by
  have hi : ∀ i ∈ items.map fun v => (ofValue v, encode v), Spells i.1 i.2 := by
    simpa using h
  have := Spells.array hi
  rw [List.map_map, List.map_map] at this
  rw [ofItems_eq_map, encodeItems_eq_map]
  exact this

theorem spells_object {entries : List (Value × Value)}
    (h : ∀ e ∈ entries, Spells (ofValue e.2) (encode e.2)) :
    Spells (.object (ofEntries entries)) (object (encodeEntries entries)) := by
  have he : ∀ e ∈ entries.map fun e => (keyText e.1, ofValue e.2, encode e.2),
      Spells e.2.1 e.2.2 := by
    intro e he
    obtain ⟨e, hm, rfl⟩ := List.mem_map.1 he
    exact h e hm
  have := Spells.object he
  rw [List.map_map, List.map_map] at this
  rw [ofEntries_eq_map, encodeEntries_eq_map]
  exact this

/-- A number is a word, whether it is finite or not. -/
theorem spells_number (x : Binary64) : Spells (.word (number x)) (number x) := by
  cases x with
  | finite negative m q =>
    have h := Literal.isToken_layout layout negative m q
    exact .word h.ne_nil h.bare
  | _ => exact .word (List.cons_ne_nil _ _) (List.all_eq_true.1 rfl)

mutual

/-- **An encoding is the compact text of a tree.** -/
theorem spells_encode : ∀ v : Value, Spells (ofValue v) (encode v)
  | .null => .word (by decide) (List.all_eq_true.1 rfl)
  | .bool true => .word (by decide) (List.all_eq_true.1 rfl)
  | .bool false => .word (by decide) (List.all_eq_true.1 rfl)
  | .int n => .word (Literal.isToken_integer n).ne_nil (Literal.isToken_integer n).bare
  | .float x => spells_number x
  | .member _ value => spells_encode value
  | .mixed _ core _ => spells_encode core
  | .sequence _ items => spells_container (spells_array (spells_items items)) _
  | .set _ items => spells_container (spells_array (spells_items items)) _
  | .mapping _ entries => spells_container (spells_object (spells_entries entries)) _
  | .object _ core _ => spells_built _ core
  | .selfWriting _ _ core _ => spells_built _ core
  | .decimal _ => .text _
  | .text _ => .text _
  | .bytes _ _ => .text _
  | .uuid _ => .text _
  | .date _ => .text _
  | .time _ => .text _
  | .dateTime _ => .text _
  | .identifier _ => .text _
  | .range _ => .text _
  | .classRef _ => .text _
  | .foreign _ _ _ => .text _

theorem spells_built (shown : Text) : ∀ v : Value, Spells (ofBuilt shown v) (encodeBuilt shown v)
  | .sequence _ items => spells_container (spells_array (spells_items items)) _
  | .set _ items => spells_container (spells_array (spells_items items)) _
  | .mapping _ entries => spells_container (spells_object (spells_entries entries)) _
  | .null | .bool _ | .int _ | .float _ | .member _ _ | .mixed _ _ _ | .object _ _ _
  | .selfWriting _ _ _ _ | .decimal _ | .text _ | .bytes _ _ | .uuid _ | .date _ | .time _
  | .dateTime _ | .identifier _ | .range _ | .classRef _ | .foreign _ _ _ => .text _

theorem spells_items : ∀ items : List Value, ∀ v ∈ items, Spells (ofValue v) (encode v)
  | [] => by simp
  | v :: rest => List.forall_mem_cons.2 ⟨spells_encode v, spells_items rest⟩

theorem spells_entries :
    ∀ entries : List (Value × Value), ∀ e ∈ entries, Spells (ofValue e.2) (encode e.2)
  | [] => by simp
  | (_, v) :: rest => List.forall_mem_cons.2 ⟨spells_encode v, spells_entries rest⟩

end

/-- **An encoded value is read back as its tree**, with what follows left over. -/
theorem read_encode (v : Value) {rest : Text} (hr : Literal.EndsToken rest) :
    read? (encode v ++ rest) = some (ofValue v, rest) :=
  (spells_encode v).read hr

/-- **An encoding takes one line**: it holds no control character. -/
theorem visible_encode (v : Value) : Visible (encode v) := (spells_encode v).visible

/-! ## Bytes -/

/-- The number that a digit of base64 stands for. -/
def digitValue (c : Char) : Nat := base64Digits.idxOf c

/-- The bytes that a base64 text stands for. Each group of four digits holds three bytes, or fewer
where it is filled up; what fills it up counts as nought. -/
def bytes? : Text → Option (List UInt8)
  | [] => some []
  | a :: b :: c :: d :: rest =>
    let n := ((digitValue a * 64 + digitValue b) * 64 + digitValue c % 64) * 64 + digitValue d % 64
    let group := [UInt8.ofNat (n / 65536), UInt8.ofNat (n / 256), UInt8.ofNat n]
    if c = '=' then some (group.take 1)
    else if d = '=' then some (group.take 2)
    else (bytes? rest).map (group ++ ·)
  | _ => none

theorem digitValue_base64Digit : ∀ n < 64, digitValue (base64Digit n) = n := by decide +kernel

/-- No digit fills up. -/
theorem base64Digit_ne : ∀ n < 64, base64Digit n ≠ '=' := by decide +kernel

/-- A byte is the end of a number to base 256. -/
theorem ofNat_end (m : Nat) (b : UInt8) : UInt8.ofNat (m * 256 + b.toNat) = b := by
  apply UInt8.toNat_inj.1
  have := b.toNat_lt
  rw [UInt8.toNat_ofNat']
  omega

/-- **Bytes are read back** from their base64 text. -/
theorem bytes?_base64 (data : List UInt8) : bytes? (base64 data) = some data := by
  have hf : digitValue '=' % 64 = 0 := by decide +kernel
  have digit {n : Nat} (hn : n < 64) : digitValue (base64Digit n) = n := digitValue_base64Digit n hn
  have ne {n : Nat} (hn : n < 64) : base64Digit n ≠ '=' := base64Digit_ne n hn
  fun_induction base64 data with
  | case1 => rfl
  | case2 a n =>
    have := a.toNat_lt
    have hn : ((n / 64 * 64 + n % 64) * 64 + 0) * 64 + 0 = a.toNat * 65536 := by omega
    have ha := ofNat_end 0 a
    rw [Nat.zero_mul, Nat.zero_add] at ha
    rw [bytes?, digit (by omega), digit (by omega), hf, hn, Nat.mul_div_cancel _ (by decide), ha]
    rfl
  | case3 a b n =>
    have := a.toNat_lt
    have := b.toNat_lt
    have hn : ((n / 4096 * 64 + n / 64 % 64) * 64 + n % 64 % 64) * 64 + 0 =
        (a.toNat * 256 + b.toNat) * 256 := by omega
    have h1 : (a.toNat * 256 + b.toNat) * 256 / 65536 = 0 * 256 + a.toNat := by omega
    rw [bytes?, digit (by omega), digit (by omega), digit (by omega), hf, hn,
      if_neg (ne (by omega)), if_pos rfl, h1, ofNat_end, Nat.mul_div_cancel _ (by decide),
        ofNat_end]
    rfl
  | case4 a b c rest n ih =>
    have := a.toNat_lt
    have := b.toNat_lt
    have := c.toNat_lt
    have hn : ((n / 262144 * 64 + n / 4096 % 64) * 64 + n / 64 % 64 % 64) * 64 + n % 64 % 64 =
        (a.toNat * 256 + b.toNat) * 256 + c.toNat := by omega
    have h1 : ((a.toNat * 256 + b.toNat) * 256 + c.toNat) / 65536 = 0 * 256 + a.toNat := by omega
    have h2 : ((a.toNat * 256 + b.toNat) * 256 + c.toNat) / 256 = a.toNat * 256 + b.toNat := by
      omega
    rw [bytes?, digit (by omega), digit (by omega), digit (by omega), digit (by omega), hn,
      if_neg (ne (by omega)), if_neg (ne (by omega)), h1, h2, ofNat_end, ofNat_end, ofNat_end, ih]
    rfl

end SqlTemplate.Json
