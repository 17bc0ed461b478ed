/-
# The host's MAC addresses

`tosca-os` looks up the Wi-Fi and Ethernet MAC addresses of the machine it runs on. On Linux
it walks `/sys/class/net`. For each interface it parses the `address` file, skips virtual
interfaces, parses the `type` file, and keeps a wireless interface of type 801 as the Wi-Fi
address and a wired one of type 1 as the Ethernet address, each overwriting the one kept
before.

The filesystem is the environment: an `Interface` is what the code reads of one directory
entry. The parsing relies on Rust's own functions, modelled on lists of characters from
their documentation: `str::trim` strips Unicode white space, `split(':')` keeps empty
fields, `char::to_digit` reads `0-9`, `a-z` and `A-Z`, and `from_str_radix` accepts one
leading `+` and checks each multiplication and addition for overflow.

## Main results

* `readMac_format` — an address file as the kernel writes it, with any white space around it,
  reads back as the MAC it was written from
* `readMac_eq_some_iff` — what `read_mac` accepts: six colon-separated fields, each an
  optional `+` and hexadecimal digits whose value is below 256
* `getMacAddresses_eq` — each address found is that of the last physical interface of its
  kind in directory order
* `getMacAddresses_physical` — no address found is that of an interface without a device, a
  locally administered one or a virtual machine vendor's
-/

import Mathlib.Data.List.Infix
import Mathlib.Data.List.ReduceOption
import Mathlib.Data.Vector.Basic

namespace Tosca.Mac

/-! ## Rust's parsing functions -/

/-- `char::is_whitespace`: the Unicode `White_Space` property. -/
def isWhitespace (c : Char) : Bool :=
  (9 ≤ c.toNat && c.toNat ≤ 13) || c.toNat == 32 || c.toNat == 0x85 || c.toNat == 0xA0 ||
    c.toNat == 0x1680 || (0x2000 ≤ c.toNat && c.toNat ≤ 0x200A) || c.toNat == 0x2028 ||
    c.toNat == 0x2029 || c.toNat == 0x202F || c.toNat == 0x205F || c.toNat == 0x3000

/-- `str::trim`. -/
def trim (s : List Char) : List Char :=
  ((s.dropWhile isWhitespace).reverse.dropWhile isWhitespace).reverse

/-- `char::to_digit(radix)`: `0-9`, then `a-z` and `A-Z` as 10 to 35, below `radix`. -/
def toDigit (c : Char) (radix : Nat) : Option Nat :=
  let value :=
    if '0' ≤ c ∧ c ≤ '9' then some (c.toNat - '0'.toNat)
    else if 'a' ≤ c ∧ c ≤ 'z' then some (c.toNat - 'a'.toNat + 10)
    else if 'A' ≤ c ∧ c ≤ 'Z' then some (c.toNat - 'A'.toNat + 10)
    else none
  value.filter (· < radix)

/-- One digit of `from_str_radix`'s loop: `checked_mul` by the radix, then `checked_add` of
the digit, in an unsigned integer of `bits` bits. -/
def accumulateDigit (bits radix : Nat) (result : Nat) (c : Char) : Option Nat := do
  let x ← toDigit c radix
  let result ← if result * radix < 2 ^ bits then some (result * radix) else none
  if result + x < 2 ^ bits then some (result + x) else none

/-- `from_str_radix(src, radix).ok()` for an unsigned integer of `bits` bits: nothing for an
empty string or a lone sign, one leading `+` skipped, then every character a digit. -/
def fromStrRadix (bits radix : Nat) : List Char → Option Nat
  | [] => none
  | ['+'] | ['-'] => none
  | '+' :: digits => digits.foldlM (accumulateDigit bits radix) 0
  | digits => digits.foldlM (accumulateDigit bits radix) 0

/-! ## Reading an interface -/

/-- `[u8; 6]`. -/
abbrev MacAddress := Mathlib.Vector UInt8 6

/-- `IFACE_TYPE_ETHERNET`. -/
def ifaceTypeEthernet : Nat := 1

/-- `IFACE_TYPE_WIFI`. -/
def ifaceTypeWifi : Nat := 801

/-- `VM_MAC_PREFIXES`: VMware, Hyper-V, VirtualBox and Parallels. -/
def vmMacPrefixes : List (List UInt8) :=
  [[0x00, 0x05, 0x69], [0x00, 0x0C, 0x29], [0x00, 0x1C, 0x14], [0x00, 0x50, 0x56],
    [0x00, 0x03, 0xFF], [0x00, 0x15, 0x5D], [0x08, 0x00, 0x27], [0x0A, 0x00, 0x27],
    [0x00, 0x1C, 0x42]]

/-- What the code reads of one entry of `/sys/class/net`. -/
structure Interface where
  /-- The contents of the `address` file, when it could be read. -/
  address : Option String
  /-- Whether the entry has a `device` entry. -/
  hasDevice : Bool
  /-- The canonical path, when it resolves to a valid string. -/
  canonical : Option String
  /-- The file name, when it is a valid string. -/
  fileName : Option String
  /-- The contents of the `type` file, when it could be read. -/
  type : Option String
  /-- Whether the entry has a `wireless` subdirectory. -/
  wireless : Bool

/-- `is_locally_administered_mac`: bit 1 of the first byte. -/
def isLocallyAdministeredMac (mac : MacAddress) : Bool :=
  mac.head &&& 0x02 != 0

/-- `is_virtual_mac_vendor`: the first three bytes are a virtual machine vendor's. -/
def isVirtualMacVendor (mac : MacAddress) : Bool :=
  vmMacPrefixes.any (· == mac.toList.take 3)

/-- `str::contains`. -/
def contains (s pattern : String) : Bool :=
  decide (List.IsInfix pattern.toList s.toList)

/-- `str::starts_with`. -/
def startsWith (s pattern : String) : Bool :=
  pattern.toList.isPrefixOf s.toList

/-- `is_virtual_interface`. -/
def isVirtualInterface (iface : Interface) (mac : MacAddress) : Bool :=
  if !iface.hasDevice then true
  else if isLocallyAdministeredMac mac then true
  else if isVirtualMacVendor mac then true
  else if (match iface.canonical with
      | some s => contains s "/sys/devices/virtual/" || contains s "VMBUS"
      | none => false) then true
  else match iface.fileName with
    | some name =>
      name == "lo" || ["docker", "br-", "veth", "tun", "tap", "vmnet"].any (startsWith name ·)
    | none => false

/-- The loop of `read_mac` over the six bytes, then the check that no field is left. -/
def readMacParts : (n : Nat) → List (List Char) → Option (Mathlib.Vector UInt8 n)
  | 0, parts => if parts.isEmpty then some Mathlib.Vector.nil else none
  | _ + 1, [] => none
  | n + 1, part :: parts => do
    let byte ← fromStrRadix 8 16 part
    let bytes ← readMacParts n parts
    pure (Mathlib.Vector.cons byte.toUInt8 bytes)

/-- `read_mac`: `address` is the `address` file's contents when it could be read. -/
def readMac (address : Option String) : Option MacAddress := do
  let macStr ← address
  readMacParts 6 ((trim macStr.toList).splitOn ':')

/-- `get_interface_type`: the `type` file as a `u16`. -/
def getInterfaceType (iface : Interface) : Option Nat :=
  iface.type.bind fun s => fromStrRadix 16 10 (trim s.toList)

/-- The body of `get_mac_addresses`' loop: skip an interface whose address does not parse,
that is virtual or whose type does not parse; keep a wireless one of type 801 as the Wi-Fi
address and a wired one of type 1 as the Ethernet address. -/
def classify (found : Option MacAddress × Option MacAddress) (iface : Interface) :
    Option MacAddress × Option MacAddress :=
  match readMac iface.address with
  | none => found
  | some mac =>
    if isVirtualInterface iface mac then found
    else match getInterfaceType iface with
      | none => found
      | some t =>
        if iface.wireless && t == ifaceTypeWifi then (some mac, found.2)
        else if !iface.wireless && t == ifaceTypeEthernet then (found.1, some mac)
        else found

/-- `get_mac_addresses`: `entries` is `read_dir`'s listing when it succeeds, each entry
`none` where the iterator yields an error, which `flatten` skips. -/
def getMacAddresses (entries : Option (List (Option Interface))) :
    Option MacAddress × Option MacAddress :=
  match entries with
  | none => (none, none)
  | some entries => entries.reduceOption.foldl classify (none, none)

/-! ## `str::trim` -/

theorem dropWhile_whitespace_append {pre s : List Char} (blank : ∀ c ∈ pre, isWhitespace c)
    (visible : ∀ c ∈ s.head?, isWhitespace c = false) :
    (pre ++ s).dropWhile isWhitespace = s := by
  induction pre with
  | nil =>
    cases s with
    | nil => rfl
    | cons c s => exact List.dropWhile_cons_of_neg (by simpa using visible c rfl)
  | cons c pre ih =>
    rw [List.cons_append, List.dropWhile_cons_of_pos (blank c (.head _))]
    exact ih fun c h => blank c (.tail _ h)

/-- Trimming strips the white space around a text that has none of its own. -/
theorem trim_eq {pre s post : List Char} (blankPre : ∀ c ∈ pre, isWhitespace c)
    (blankPost : ∀ c ∈ post, isWhitespace c) (visible : ∀ c ∈ s, isWhitespace c = false) :
    trim (pre ++ s ++ post) = s := by
  rcases eq_or_ne s [] with rfl | nonempty
  · have blank : ∀ c ∈ pre ++ post, isWhitespace c := fun c h =>
      (List.mem_append.mp h).elim (blankPre c) (blankPost c)
    rw [List.append_nil, trim, List.dropWhile_eq_nil_iff.mpr blank]
    rfl
  have starts : ∀ c ∈ (s ++ post).head?, isWhitespace c = false := by
    rw [List.head?_append_of_ne_nil _ nonempty]
    exact fun c h => visible c (List.mem_of_mem_head? h)
  have ends : ∀ c ∈ s.reverse.head?, isWhitespace c = false :=
    fun c h => visible c (List.mem_reverse.mp (List.mem_of_mem_head? h))
  unfold trim
  rw [List.append_assoc, dropWhile_whitespace_append blankPre starts, List.reverse_append,
    dropWhile_whitespace_append (by simpa using blankPost) ends, List.reverse_reverse]

/-! ## `from_str_radix` -/

/-- The value of digits read most significant first, from an accumulated `acc`. -/
def digitsValue (radix acc : Nat) (digits : List Nat) : Nat :=
  digits.foldl (fun acc d => acc * radix + d) acc

theorem le_digitsValue {radix : Nat} (positive : 0 < radix) (acc : Nat) (digits : List Nat) :
    acc ≤ digitsValue radix acc digits := by
  induction digits generalizing acc with
  | nil => exact le_rfl
  | cons d digits ih =>
    exact le_trans (Nat.le_mul_of_pos_right acc positive) (le_trans (Nat.le_add_right _ d)
      (ih _))

/-- One digit: the checked multiplication cannot fail where the checked addition after it
succeeds, so only the new value has to fit. -/
theorem accumulateDigit_eq_some {bits radix acc n : Nat} {c : Char} :
    accumulateDigit bits radix acc c = some n ↔
      ∃ d, toDigit c radix = some d ∧ n = acc * radix + d ∧ n < 2 ^ bits := by
  unfold accumulateDigit
  cases toDigit c radix with
  | none => simp
  | some d =>
    by_cases fits : acc * radix + d < 2 ^ bits
    · simp [Nat.lt_of_le_of_lt (Nat.le_add_right _ _) fits, fits]; omega
    · simp [fits]; omega

/-- The checked loop of `from_str_radix`: it succeeds exactly when every character is a digit
and the value fits, since the value only grows from one digit to the next. -/
theorem foldlM_accumulateDigit_eq_some {bits radix : Nat} (positive : 0 < radix)
    (cs : List Char) {acc n : Nat} (fits : acc < 2 ^ bits) :
    cs.foldlM (accumulateDigit bits radix) acc = some n ↔
      ∃ ds, List.Forall₂ (fun c d => toDigit c radix = some d) cs ds ∧
        n = digitsValue radix acc ds ∧ n < 2 ^ bits := by
  induction cs generalizing acc with
  | nil =>
    simp only [List.foldlM_nil, digitsValue, List.forall₂_nil_left_iff, exists_eq_left,
      List.foldl_nil]
    exact ⟨fun h => by cases h; exact ⟨rfl, fits⟩, fun ⟨h, _⟩ => h ▸ rfl⟩
  | cons c cs ih =>
    simp only [List.foldlM_cons, Option.bind_eq_bind, Option.bind_eq_some,
      accumulateDigit_eq_some, List.forall₂_cons_left_iff]
    constructor
    · rintro ⟨_, ⟨d, hd, rfl, lt⟩, rest⟩
      obtain ⟨ds, hds, rfl, hn⟩ := (ih lt).mp rest
      exact ⟨d :: ds, ⟨d, ds, hd, hds, rfl⟩, rfl, hn⟩
    · rintro ⟨_, ⟨d, ds, hd, hds, rfl⟩, rfl, hn⟩
      have lt : acc * radix + d < 2 ^ bits :=
        lt_of_le_of_lt (le_digitsValue positive _ ds) hn
      exact ⟨_, ⟨d, hd, rfl, lt⟩, (ih lt).mpr ⟨ds, hds, rfl, hn⟩⟩

theorem toDigit_plus (radix : Nat) : toDigit '+' radix = none := rfl

theorem fromStrRadix_plus (bits radix : Nat) {cs : List Char} (nonempty : cs ≠ []) :
    fromStrRadix bits radix ('+' :: cs) = cs.foldlM (accumulateDigit bits radix) 0 := by
  cases cs with
  | nil => exact absurd rfl nonempty
  | cons c cs => rfl

theorem fromStrRadix_of_ne_plus (bits radix : Nat) {c : Char} (unsigned : c ≠ '+')
    (cs : List Char) :
    fromStrRadix bits radix (c :: cs) = (c :: cs).foldlM (accumulateDigit bits radix) 0 := by
  by_cases minus : c = '-' ∧ cs = []
  · obtain ⟨rfl, rfl⟩ := minus
    rfl
  · unfold fromStrRadix
    split <;> simp_all

theorem not_forall₂_toDigit_plus {radix : Nat} {cs : List Char} {ds : List Nat} :
    ¬List.Forall₂ (fun c d => toDigit c radix = some d) ('+' :: cs) ds := by
  rintro (_ | ⟨h, _⟩)
  rw [toDigit_plus] at h
  cases h

/-- What `from_str_radix` accepts: an optional `+`, then one or more digits of the radix whose
value fits in `bits` bits. Leading zeros are allowed and a `-` is not. -/
theorem fromStrRadix_eq_some_iff {bits radix n : Nat} (positive : 0 < radix) (s : List Char) :
    fromStrRadix bits radix s = some n ↔
      ∃ cs ds, (s = cs ∨ s = '+' :: cs) ∧ cs ≠ [] ∧
        List.Forall₂ (fun c d => toDigit c radix = some d) cs ds ∧
        n = digitsValue radix 0 ds ∧ n < 2 ^ bits := by
  match s with
  | [] => simp [fromStrRadix]
  | c :: cs =>
    by_cases plus : c = '+'
    · subst plus
      by_cases empty : cs = []
      · subst empty
        refine ⟨nofun, ?_⟩
        rintro ⟨cs, ds, rfl | ⟨-, rfl⟩, nonempty, digits, -⟩
        · exact absurd digits not_forall₂_toDigit_plus
        · exact absurd rfl nonempty
      · rw [fromStrRadix_plus _ _ empty,
          foldlM_accumulateDigit_eq_some positive _ (Nat.two_pow_pos bits)]
        refine ⟨fun ⟨ds, h⟩ => ⟨cs, ds, .inr rfl, empty, h⟩, ?_⟩
        rintro ⟨cs, ds, rfl | ⟨-, rfl⟩, -, digits, rest⟩
        · exact absurd digits not_forall₂_toDigit_plus
        · exact ⟨ds, digits, rest⟩
    · rw [fromStrRadix_of_ne_plus _ _ plus,
        foldlM_accumulateDigit_eq_some positive _ (Nat.two_pow_pos bits)]
      refine ⟨fun ⟨ds, h⟩ => ⟨c :: cs, ds, .inl rfl, List.cons_ne_nil _ _, h⟩, ?_⟩
      rintro ⟨cs, ds, rfl | ⟨rfl, rfl⟩, -, digits, rest⟩
      · exact ⟨ds, digits, rest⟩
      · exact absurd rfl plus

theorem fromStrRadix_lt {bits radix n : Nat} (positive : 0 < radix) {s : List Char}
    (h : fromStrRadix bits radix s = some n) : n < 2 ^ bits := by
  obtain ⟨_, _, _, _, _, _, lt⟩ := (fromStrRadix_eq_some_iff positive s).mp h
  exact lt

/-! ## The address file's format -/

theorem mem_intersperse {α : Type} {sep a : α} :
    ∀ {l : List α}, a ∈ l.intersperse sep → a = sep ∨ a ∈ l
  | [], h => absurd h (List.not_mem_nil a)
  | [_], h => .inr h
  | b :: c :: l, h => by
    rw [List.intersperse_cons₂, List.mem_cons, List.mem_cons] at h
    rcases h with rfl | rfl | h
    · exact .inr (.head _)
    · exact .inl rfl
    · exact (mem_intersperse h).imp_right (.tail _)

theorem mem_intercalate {α : Type} {x a : α} {ls : List (List α)}
    (h : a ∈ [x].intercalate ls) : a = x ∨ ∃ l ∈ ls, a ∈ l := by
  obtain ⟨l, hl, ha⟩ := List.mem_flatten.mp h
  rcases mem_intersperse hl with rfl | hl
  · exact .inl (List.mem_singleton.mp ha)
  · exact .inr ⟨l, hl, ha⟩

/-- A hexadecimal digit as the kernel prints it, in lower case. -/
def hexDigitChar (d : Nat) : Char :=
  if d < 10 then Char.ofNat ('0'.toNat + d) else Char.ofNat ('a'.toNat + d - 10)

/-- A byte as two hexadecimal digits. -/
def hexByte (b : UInt8) : List Char :=
  [hexDigitChar (b.toNat / 16), hexDigitChar (b.toNat % 16)]

/-- What the kernel writes to an interface's `address` file, before its newline: the six
bytes as lower-case hexadecimal separated by colons (`%pM`). -/
def formatMac (mac : MacAddress) : List Char :=
  [':'].intercalate (mac.toList.map hexByte)

theorem hexDigitChar_spec :
    ∀ d < 16, toDigit (hexDigitChar d) 16 = some d ∧ hexDigitChar d ≠ '+' ∧
      hexDigitChar d ≠ ':' ∧ isWhitespace (hexDigitChar d) = false := by
  decide

theorem fromStrRadix_hexByte (b : UInt8) : fromStrRadix 8 16 (hexByte b) = some b.toNat := by
  have byte : b.toNat < 256 := b.toNat_lt_size
  have high := hexDigitChar_spec (b.toNat / 16) (by omega)
  have low := hexDigitChar_spec (b.toNat % 16) (by omega)
  rw [hexByte, fromStrRadix_of_ne_plus _ _ high.2.1]
  have digits : b.toNat / 16 * 16 + b.toNat % 16 = b.toNat := Nat.div_add_mod' _ _
  simp [accumulateDigit, high.1, low.1, digits, byte, show b.toNat / 16 * 16 < 256 by omega,
    show b.toNat / 16 < 256 by omega]

theorem readMacParts_map_hexByte (n : Nat) (bytes : Mathlib.Vector UInt8 n) :
    readMacParts n (bytes.toList.map hexByte) = some bytes := by
  obtain ⟨bytes, rfl⟩ := bytes
  induction bytes with
  | nil => rfl
  | cons b bytes ih =>
    simp only [Mathlib.Vector.toList_mk, List.map_cons, List.length_cons, readMacParts,
      fromStrRadix_hexByte] at ih ⊢
    rw [ih]
    exact congrArg (some <| Mathlib.Vector.cons · _)
      (UInt8.toNat.inj (UInt8.toNat_ofNat_of_lt b.toNat_lt_size))

/-- An address file as the kernel writes it, with any white space around it (the newline
after it, say), reads back as the address it was written from. -/
theorem readMac_format (mac : MacAddress) {pre post : List Char}
    (blankPre : ∀ c ∈ pre, isWhitespace c) (blankPost : ∀ c ∈ post, isWhitespace c) :
    readMac (some ⟨pre ++ formatMac mac ++ post⟩) = some mac := by
  have fields : ∀ field ∈ mac.toList.map hexByte, ∀ c ∈ field,
      c ≠ ':' ∧ isWhitespace c = false := by
    simp only [List.mem_map]
    rintro _ ⟨b, -, rfl⟩ c hc
    rcases List.mem_pair.mp hc with rfl | rfl
    · exact (hexDigitChar_spec _ (Nat.div_lt_of_lt_mul b.toNat_lt_size)).2.2
    · exact (hexDigitChar_spec _ (Nat.mod_lt _ (by decide))).2.2
  have nonempty : mac.toList.map hexByte ≠ [] := List.ne_nil_of_length_pos (by simp)
  have visible : ∀ c ∈ formatMac mac, isWhitespace c = false := fun c h =>
    (mem_intercalate h).elim (fun colon => colon ▸ rfl)
      fun ⟨field, mem, hc⟩ => (fields field mem c hc).2
  show readMacParts 6 ((trim (pre ++ formatMac mac ++ post)).splitOn ':') = _
  rw [trim_eq blankPre blankPost visible, formatMac,
    List.splitOn_intercalate _ _ (fun field mem colon => (fields field mem _ colon).1 rfl) nonempty]
  exact readMacParts_map_hexByte 6 mac

/-- The address of the witnesses below. -/
def eth0Mac : MacAddress := ⟨[0x00, 0x1a, 0x2b, 0x3c, 0x4d, 0x5e], rfl⟩

theorem readMac_format_newline :
    (∀ c ∈ ([] : List Char), isWhitespace c) ∧ (∀ c ∈ ['\n'], isWhitespace c) ∧
      readMac (some ⟨[] ++ formatMac eth0Mac ++ ['\n']⟩) = some eth0Mac :=
  ⟨by decide, by decide, readMac_format eth0Mac (by decide) (by decide)⟩

theorem readMacParts_eq_some_iff (n : Nat) (parts : List (List Char))
    (bytes : Mathlib.Vector UInt8 n) :
    readMacParts n parts = some bytes ↔
      List.Forall₂ (fun part b => fromStrRadix 8 16 part = some b.toNat) parts bytes.toList := by
  induction n generalizing parts with
  | zero =>
    rw [Mathlib.Vector.eq_nil bytes]
    cases parts <;> simp [readMacParts]
  | succ n ih =>
    cases parts with
    | nil => simpa [readMacParts] using List.ne_nil_of_length_pos (by simp)
    | cons part parts =>
      rw [← Mathlib.Vector.cons_head_tail bytes, Mathlib.Vector.toList_cons, readMacParts,
        List.forall₂_cons, ← ih]
      rcases parse : fromStrRadix 8 16 part with _ | byte
      · simp
      · have fits : byte < 2 ^ 8 := fromStrRadix_lt (by decide) parse
        rcases readMacParts n parts with _ | tail
        · simp
        · have round : byte.toUInt8.toNat = byte := UInt8.toNat_ofNat_of_lt fits
          show some (byte.toUInt8 ::ᵥ tail) = some (bytes.head ::ᵥ bytes.tail) ↔ _
          simp only [Option.some_inj, Mathlib.Vector.eq_cons_iff, Mathlib.Vector.head_cons,
            Mathlib.Vector.tail_cons, eq_comm (a := bytes.tail)]
          exact and_congr_left'
            ⟨fun h => h ▸ round.symm, fun h => UInt8.toNat.inj (round.trans h)⟩
/-- What `read_mac` accepts: after trimming, exactly six colon-separated fields, each an
optional `+` and one or more hexadecimal digits, in either case, whose value is the byte. -/
theorem readMac_eq_some_iff (s : String) (mac : MacAddress) :
    readMac (some s) = some mac ↔
      List.Forall₂ (fun field b => ∃ cs ds, (field = cs ∨ field = '+' :: cs) ∧ cs ≠ [] ∧
          List.Forall₂ (fun c d => toDigit c 16 = some d) cs ds ∧ b.toNat = digitsValue 16 0 ds)
        ((trim s.toList).splitOn ':') mac.toList := by
  have field : ∀ (field : List Char) (b : UInt8), fromStrRadix 8 16 field = some b.toNat ↔
      ∃ cs ds, (field = cs ∨ field = '+' :: cs) ∧ cs ≠ [] ∧
        List.Forall₂ (fun c d => toDigit c 16 = some d) cs ds ∧
        b.toNat = digitsValue 16 0 ds := fun field b => by
    simp only [fromStrRadix_eq_some_iff (by decide : 0 < 16),
      show b.toNat < 2 ^ 8 from b.toNat_lt_size, and_true]
  simp only [← field]
  exact readMacParts_eq_some_iff 6 _ mac

example : readMac (some "+0:1A:002b:3c:4d:5e") = some eth0Mac := by decide

/-! ## Classifying the interfaces -/

/-- The address an interface leaves in one of `get_mac_addresses`' two slots: its own, when it
is read, the interface is not virtual, its type is read as `type` and its wireless flag is
`wireless`. -/
def eligible (wireless : Bool) (type : Nat) (iface : Interface) : Option MacAddress :=
  (readMac iface.address).filter fun mac =>
    !isVirtualInterface iface mac && getInterfaceType iface == some type &&
      iface.wireless == wireless

/-- One turn of the loop overwrites each slot with what the interface is eligible for. -/
theorem classify_eq (found : Option MacAddress × Option MacAddress) (iface : Interface) :
    classify found iface =
      ((eligible true ifaceTypeWifi iface).or found.1,
        (eligible false ifaceTypeEthernet iface).or found.2) := by
  unfold classify eligible
  rcases readMac iface.address with _ | mac
  · rfl
  by_cases virtual : isVirtualInterface iface mac
  · simp [Option.filter, virtual]
  rcases getInterfaceType iface with _ | t
  · simp [Option.filter]
  cases iface.wireless <;> by_cases wifi : t = ifaceTypeWifi <;>
    by_cases ethernet : t = ifaceTypeEthernet <;>
    simp_all [Option.filter, ifaceTypeWifi, ifaceTypeEthernet]

theorem getLast?_cons_or {α : Type} (a : α) (l : List α) (o : Option α) :
    (a :: l).getLast?.or o = l.getLast?.or (some a) := by
  rw [← List.singleton_append, List.getLast?_append]
  cases l.getLast? <;> rfl

theorem foldl_classify (ifaces : List Interface) (found : Option MacAddress × Option MacAddress) :
    ifaces.foldl classify found =
      ((ifaces.filterMap (eligible true ifaceTypeWifi)).getLast?.or found.1,
        (ifaces.filterMap (eligible false ifaceTypeEthernet)).getLast?.or found.2) := by
  induction ifaces generalizing found with
  | nil => rfl
  | cons iface ifaces ih =>
    rw [List.foldl_cons, ih, classify_eq]
    simp only [List.filterMap_cons]
    congr 1 <;> split <;> simp_all [getLast?_cons_or, Option.or_assoc]

/-- Each address `get_mac_addresses` finds is that of the last interface of the listing that is
eligible for its slot: every eligible interface overwrites the one before. -/
theorem getMacAddresses_eq (entries : List (Option Interface)) :
    getMacAddresses (some entries) =
      ((entries.reduceOption.filterMap (eligible true ifaceTypeWifi)).getLast?,
        (entries.reduceOption.filterMap (eligible false ifaceTypeEthernet)).getLast?) := by
  rw [getMacAddresses, foldl_classify]
  simp

theorem isVirtualInterface_eq_false {iface : Interface} {mac : MacAddress}
    (physical : isVirtualInterface iface mac = false) :
    iface.hasDevice = true ∧ isLocallyAdministeredMac mac = false ∧
      isVirtualMacVendor mac = false := by
  unfold isVirtualInterface at physical
  split_ifs at physical with device administered vendor
  simp_all

theorem eligible_eq_some {wireless : Bool} {type : Nat} {iface : Interface} {mac : MacAddress}
    (h : eligible wireless type iface = some mac) :
    readMac iface.address = some mac ∧ isVirtualInterface iface mac = false := by
  unfold eligible at h
  obtain ⟨read, keep⟩ := Option.filter_eq_some.mp h
  simp only [Bool.and_eq_true, Bool.not_eq_true'] at keep
  exact ⟨read, keep.1.1⟩

/-- `get_mac_addresses` reports only the address of a listed interface that has a device and
whose address is neither locally administered nor a virtual machine vendor's. -/
theorem getMacAddresses_physical {entries : Option (List (Option Interface))} {mac : MacAddress}
    (found : (getMacAddresses entries).1 = some mac ∨ (getMacAddresses entries).2 = some mac) :
    ∃ listing iface, entries = some listing ∧ some iface ∈ listing ∧
      readMac iface.address = some mac ∧ iface.hasDevice = true ∧
      isLocallyAdministeredMac mac = false ∧ isVirtualMacVendor mac = false := by
  rcases entries with _ | listing
  · simp [getMacAddresses] at found
  simp only [getMacAddresses, foldl_classify, Option.or_none] at found
  obtain ⟨wireless, type, mem⟩ : ∃ wireless type,
      mac ∈ listing.reduceOption.filterMap (eligible wireless type) :=
    found.elim (fun h => ⟨_, _, List.mem_of_getLast?_eq_some h⟩)
      (fun h => ⟨_, _, List.mem_of_getLast?_eq_some h⟩)
  obtain ⟨iface, listed, elig⟩ := List.mem_filterMap.mp mem
  obtain ⟨read, physical⟩ := eligible_eq_some elig
  exact ⟨listing, iface, rfl, List.reduceOption_mem_iff.mp listed, read,
    isVirtualInterface_eq_false physical⟩

/-- A machine whose only interface is a wired `eth0`. -/
def eth0 : Interface where
  address := some "00:1a:2b:3c:4d:5e\n"
  hasDevice := true
  canonical := some "/sys/devices/pci0000:00/0000:00:1f.6/net/eth0"
  fileName := some "eth0"
  type := some "1\n"
  wireless := false

theorem getMacAddresses_eth0 :
    (getMacAddresses (some [some eth0])).2 = some eth0Mac ∧
      ∃ listing iface, some [some eth0] = some listing ∧ some iface ∈ listing ∧
        readMac iface.address = some eth0Mac ∧ iface.hasDevice = true ∧
        isLocallyAdministeredMac eth0Mac = false ∧ isVirtualMacVendor eth0Mac = false :=
  have found : (getMacAddresses (some [some eth0])).2 = some eth0Mac := by decide
  ⟨found, getMacAddresses_physical (.inr found)⟩

end Tosca.Mac
