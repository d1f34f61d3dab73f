import ContainerWatch.Proofs.Container.Items
import ContainerWatch.Text.Blank
/-!
# Which keys name a container port

A key names a port by a numeral, which may have a plus sign and any zeros at its front, and the protocol by what
stands after the numeral: nothing for TCP, or a slash with the name of a protocol (`PortKey.Ending`).  Ports of any
size are named in this way (`PortKey.Names`), each key names one at most, and a key is read as the port that it
names when two bytes hold it.

The reader cuts a key at its first slash, and the grammar where its numeral ends.  A numeral holds no slash, so this
is the same place.

Nothing else is read.  The families of keys that are refused (`PortKey.Malformed`) are met by what every name of a
port has in common, one lemma for each: it holds no stray character (`Names.not_stray`), one slash at most
(`Names.count_slash_le`), and none at its end (`Names.getLast?_ne`).

Main statement: `PortKey.read?_names`.
-/

namespace ContainerWatch

open Numeral Text

/-- A protocol is read from its own name only, in small letters. -/
theorem Protocol.ofName?_eq_some_iff {s : String} {p : Protocol} : ofName? s = some p ↔ s = p.name :=
  ⟨name_of_ofName?, fun h => h ▸ ofName?_name p⟩

namespace PortKey

/-! ## The grammar -/

/-- What stands after the port in a key, and the protocol that it means. -/
inductive Ending : String → Protocol → Prop
  | none : Ending "" .tcp
  | tcp : Ending "/tcp" .tcp
  | udp : Ending "/udp" .udp
  | sctp : Ending "/sctp" .sctp

/-- The keys that name a port, of any size, with a protocol. -/
inductive Names : String → Nat → Protocol → Prop
  | mk {numeral ending : String} {port : Nat} {protocol : Protocol} (hnumeral : Unsigned numeral.toList port)
    (hending : Ending ending protocol) : Names (numeral ++ ending) port protocol

/-- The ending of a key is empty, for TCP, or a slash with the name of its protocol. -/
theorem ending_iff {ending : String} {protocol : Protocol} :
    Ending ending protocol ↔ ending = "" ∧ protocol = .tcp ∨ ending = "/" ++ protocol.name := by
  constructor
  · intro h
    cases h with
    | none => exact Or.inl ⟨rfl, rfl⟩
    | tcp => exact Or.inr rfl
    | udp => exact Or.inr rfl
    | sctp => exact Or.inr rfl
  · rintro (⟨rfl, rfl⟩ | rfl)
    · exact .none
    · cases protocol with
      | tcp => exact .tcp
      | udp => exact .udp
      | sctp => exact .sctp

theorem Ending.unique {ending : String} {p q : Protocol} (hp : Ending ending p) (hq : Ending ending q) : p = q := by
  have hne (protocol : Protocol) : "" ≠ "/" ++ protocol.name := by cases protocol <;> decide
  rcases ending_iff.1 hp with ⟨rfl, rfl⟩ | rfl
  · rcases ending_iff.1 hq with ⟨-, rfl⟩ | hname
    · rfl
    · exact absurd hname (hne q)
  · rcases ending_iff.1 hq with ⟨hempty, -⟩ | hname
    · exact absurd hempty.symm (hne p)
    · exact Protocol.name_injective ((String.append_right_inj "/").1 hname)

/-- A numeral holds no slash. -/
theorem freeOf_slash_of_unsigned {numeral : String} {port : Nat} (h : Unsigned numeral.toList port) :
    FreeOf '/' numeral :=
  h.notMem rfl (by decide)

/-- A key names one port at most, under one protocol.  Two ways of cutting the key agree, because a numeral goes up to
the first slash or to the end. -/
theorem Names.unique {key : String} {m n : Nat} {p q : Protocol} (hm : Names key m p) (hn : Names key n q) :
    m = n ∧ p = q := by
  -- the numeral goes on as long as no slash comes, and the ending starts with one or is empty
  have hcut {ending : String} {protocol : Protocol} (h : Ending ending protocol) :
      ending.toList.takeWhile (· ≠ '/') = [] := by
    cases h <;> rfl
  have hkeep {numeral : String} {port : Nat} (h : Unsigned numeral.toList port) :
      ∀ c ∈ numeral.toList, decide (c ≠ '/') := fun c hc =>
    decide_eq_true fun hslash => freeOf_slash_of_unsigned h (hslash ▸ hc)
  generalize hkey : key = key' at hn
  obtain ⟨hnumeral, hending⟩ := hm
  obtain ⟨hnumeral', hending'⟩ := hn
  have hlist := congrArg String.toList hkey
  rw [String.toList_append, String.toList_append] at hlist
  obtain ⟨hsame, hsame'⟩ :=
    eq_of_append_of_kind (hkeep hnumeral) (hkeep hnumeral') (hcut hending) (hcut hending') hlist
  obtain rfl := String.toList_injective hsame
  obtain rfl := String.toList_injective hsame'
  exact ⟨hnumeral.unique hnumeral', hending.unique hending'⟩

/-! ## The reader -/

/-- A key without a slash is a numeral, under TCP. -/
theorem read?_of_freeOf {key : String} (h : FreeOf '/' key) :
    read? key = (nat16? key.toList).map fun port => ⟨port, .tcp⟩ := by
  have hcut : cutAt '/' key.toList = none := cutAt_eq_none_iff.2 h
  have htcp : Protocol.ofName? (String.ofList "tcp".toList) = some .tcp := by
    rw [String.ofList_toList]
    exact Protocol.ofName?_name .tcp
  rw [read?, hcut]
  simp only [Option.getD_none, htcp, Option.map_some]
  exact Option.map_eq_bind.symm

/-- A key with a slash is a numeral and the name of a protocol, cut at the first one. -/
theorem read?_append_slash {numeral : String} (h : FreeOf '/' numeral) (name : String) :
    read? (numeral ++ "/" ++ name) = (nat16? numeral.toList).bind fun port =>
      (Protocol.ofName? name).map fun protocol => ⟨port, protocol⟩ := by
  have hcut : cutAt '/' (numeral ++ "/" ++ name).toList = some (numeral.toList, name.toList) := by
    rw [String.toList_append, String.toList_append, List.append_assoc]
    exact cutAt_append name.toList h
  rw [read?, hcut]
  simp only [Option.getD_some, String.ofList_toList]

/-- A key holds no slash, or it can be cut at its first one. -/
theorem freeOf_slash_or (key : String) :
    FreeOf '/' key ∨ ∃ numeral name, FreeOf '/' numeral ∧ key = numeral ++ "/" ++ name := by
  cases hcut : cutAt '/' key.toList with
  | none => exact Or.inl (cutAt_eq_none_iff.1 hcut)
  | some parts =>
    obtain ⟨hkey, hfree⟩ := eq_append_of_cutAt hcut
    refine Or.inr ⟨String.ofList parts.1, String.ofList parts.2, freeOf_ofList.2 hfree, ?_⟩
    apply String.toList_injective
    simpa using hkey

/-- A key is read as the port and the protocol that it names.  The cases on the left are whether the key has a slash,
those on the right whether its ending is empty. -/
theorem read?_eq_some_iff {key : String} {k : PortKey} : read? key = some k ↔ Names key k.port.toNat k.protocol := by
  constructor
  · intro h
    rcases freeOf_slash_or key with hfree | ⟨numeral, name, hfree, rfl⟩
    · rw [read?_of_freeOf hfree] at h
      obtain ⟨port, hport, rfl⟩ := Option.map_eq_some_iff.1 h
      have hnames := Names.mk (nat16?_eq_some_iff.1 hport) .none
      rwa [String.append_empty] at hnames
    · rw [read?_append_slash hfree] at h
      obtain ⟨port, hport, h⟩ := Option.bind_eq_some_iff.1 h
      obtain ⟨protocol, hprotocol, rfl⟩ := Option.map_eq_some_iff.1 h
      rw [Protocol.ofName?_eq_some_iff.1 hprotocol, String.append_assoc]
      exact .mk (nat16?_eq_some_iff.1 hport) (ending_iff.2 (Or.inr rfl))
  · -- the numeral of a name is free of slashes, so the reader cuts after it
    obtain ⟨port, protocol⟩ := k
    intro h
    obtain ⟨hnumeral, hending⟩ := h
    have hfree := freeOf_slash_of_unsigned hnumeral
    have hread := nat16?_eq_some_iff.2 hnumeral
    rcases ending_iff.1 hending with ⟨rfl, rfl⟩ | rfl
    · rw [String.append_empty, read?_of_freeOf hfree, hread]
      rfl
    · rw [← String.append_assoc, read?_append_slash hfree, hread, Protocol.ofName?_name]
      rfl

/-- A key is not read when it names no port, or one that two bytes do not hold. -/
theorem read?_eq_none_iff {key : String} :
    read? key = none ↔ ∀ port protocol, Names key port protocol → 65535 < port := by
  constructor
  · intro h port protocol hnames
    refine Nat.lt_of_not_le fun hle => ?_
    have hport : (UInt16.ofNat port).toNat = port :=
      UInt16.toNat_ofNat_of_lt' (Nat.lt_succ_of_le hle)
    have hread : read? key = some ⟨UInt16.ofNat port, protocol⟩ := read?_eq_some_iff.2 (hport.symm ▸ hnames)
    rw [h] at hread
    cases hread
  · intro h
    refine Option.eq_none_iff_forall_ne_some.2 fun k hread => ?_
    have hlarge := h k.port.toNat k.protocol (read?_eq_some_iff.1 hread)
    exact Nat.not_le_of_lt hlarge (Nat.le_of_lt_succ k.port.toNat_lt)

/-! ## Keys that are not read -/

/-- The characters that no key holds: blanks, minus signs, upper-case letters, and all that are not ASCII. -/
def Stray (c : Char) : Prop := isBlank c ∨ c = '-' ∨ c.isUpper ∨ 127 < c.toNat

instance (c : Char) : Decidable (Stray c) :=
  inferInstanceAs (Decidable (isBlank c ∨ c = '-' ∨ c.isUpper ∨ 127 < c.toNat))

/-- Keys that are not the name of a port, and names of ports that two bytes do not hold. -/
inductive Malformed : String → Prop
  /-- a stray character, wherever it stands -/
  | stray {key : String} {c : Char} (hc : c ∈ key.toList) (hstray : Stray c) : Malformed key
  /-- no digit up to the end or the first slash -/
  | noDigit {front rest : String} (hfront : front = "" ∨ front = "+")
    (hrest : rest = "" ∨ ∃ name, rest = "/" ++ name) : Malformed (front ++ rest)
  /-- a slash with nothing after it -/
  | noName (front : String) : Malformed (front ++ "/")
  /-- a second slash -/
  | slashes (front middle rest : String) : Malformed (front ++ "/" ++ middle ++ "/" ++ rest)
  /-- a port that two bytes do not hold -/
  | large {key : String} {port : Nat} {protocol : Protocol} (hnames : Names key port protocol)
    (hlarge : 65535 < port) : Malformed key

/-- Digits are not stray.  They lie between 48 and 57, away from the blanks, the letters and what is not ASCII. -/
theorem not_stray_of_isDigit {c : Char} (h : c.isDigit) : ¬ Stray c := by
  obtain ⟨hlow, hhigh⟩ : 48 ≤ c.toNat ∧ c.toNat ≤ 57 := Char.isDigit_iff_toNat.1 h
  rintro (hblank | rfl | hupper | hlarge)
  · simp only [isBlank, blankCodes, List.contains_eq_mem, List.mem_cons, List.not_mem_nil, or_false,
      decide_eq_true_iff] at hblank
    omega
  · cases h
  · obtain ⟨hletter, -⟩ : 65 ≤ c.toNat ∧ c.toNat ≤ 90 := of_decide_eq_true hupper
    omega
  · omega

theorem Ending.not_stray {ending : String} {protocol : Protocol} (h : Ending ending protocol) :
    ∀ c ∈ ending.toList, ¬ Stray c := by
  have hclean : ending.toList.all fun c => !decide (Stray c) := by cases h <;> rfl
  intro c hc
  simpa using List.all_eq_true.1 hclean c hc

/-- No stray character stands in the name of a port. -/
theorem Names.not_stray {key : String} {port : Nat} {protocol : Protocol} (h : Names key port protocol) {c : Char}
    (hc : c ∈ key.toList) : ¬ Stray c := by
  obtain ⟨hnumeral, hending⟩ := h
  rw [String.toList_append] at hc
  rcases List.mem_append.1 hc with hc | hc
  · rcases hnumeral.isDigit_or hc with hdigit | rfl
    · exact not_stray_of_isDigit hdigit
    · decide
  · exact hending.not_stray c hc

/-- The name of a port holds one slash at most. -/
theorem Names.count_slash_le {key : String} {port : Nat} {protocol : Protocol} (h : Names key port protocol) :
    key.toList.count '/' ≤ 1 := by
  obtain ⟨hnumeral, hending⟩ := h
  rw [String.toList_append, List.count_append, List.count_eq_zero_of_not_mem (freeOf_slash_of_unsigned hnumeral),
    Nat.zero_add]
  cases hending <;> decide

/-- The name of a port does not end in a slash. -/
theorem Names.getLast?_ne {key : String} {port : Nat} {protocol : Protocol} (h : Names key port protocol) :
    key.toList.getLast? ≠ some '/' := by
  obtain ⟨hnumeral, hending⟩ := h
  rcases ending_iff.1 hending with ⟨rfl, rfl⟩ | rfl
  · intro hlast
    rw [String.append_empty] at hlast
    exact freeOf_slash_of_unsigned hnumeral (List.mem_of_getLast? hlast)
  · cases protocol <;> simp [Protocol.name]

theorem read?_eq_none_of_forall_not {key : String} (h : ∀ port protocol, ¬ Names key port protocol) :
    read? key = none :=
  read?_eq_none_iff.2 fun port protocol hnames => absurd hnames (h port protocol)

/-- No malformed key is read.  Of the families only keys without a digit are followed through the reader; for the
others it is enough what a name of a port cannot have. -/
theorem Malformed.read?_eq_none {key : String} (h : Malformed key) : read? key = none := by
  cases h with
  | stray hc hstray => exact read?_eq_none_of_forall_not fun _ _ hnames => hnames.not_stray hc hstray
  | @noDigit front rest hfront hrest =>
    -- digits may stand after the slash, so it counts where the reader cuts
    have hfree : FreeOf '/' front := by obtain rfl | rfl := hfront <;> decide
    have hport : nat16? front.toList = none := by obtain rfl | rfl := hfront <;> rfl
    rcases hrest with rfl | ⟨name, rfl⟩
    · rw [String.append_empty, read?_of_freeOf hfree, hport]
      rfl
    · rw [← String.append_assoc, read?_append_slash hfree, hport]
      rfl
  | noName front =>
    refine read?_eq_none_of_forall_not fun _ _ hnames => hnames.getLast?_ne ?_
    rw [String.toList_append]
    exact List.getLast?_concat
  | slashes front middle rest =>
    refine read?_eq_none_of_forall_not fun _ _ hnames => Nat.not_lt_of_le hnames.count_slash_le ?_
    simp only [String.toList_append, List.count_append]
    have hslash : "/".toList.count '/' = 1 := rfl
    omega
  | large hnames hlarge =>
    refine read?_eq_none_iff.2 fun port protocol hother => ?_
    obtain ⟨rfl, -⟩ := hnames.unique hother
    exact hlarge

/-! ## The printed form -/

/-- A binding as it is printed names its container port after the last arrow. -/
theorem isAfterLast_text (b : PortBinding) :
    IsAfterLast '>' b.text (PortBinding.portText b.containerPort ++ "/" ++ b.protocol.name) := by
  constructor
  · have hport : FreeOf '>' (PortBinding.portText b.containerPort) := freeOf_ofList.2 (notMem_decimal rfl _)
    have hname : FreeOf '>' b.protocol.name := by cases b.protocol <;> decide
    rw [freeOf_append, freeOf_append]
    exact ⟨⟨hport, by decide⟩, hname⟩
  · refine ⟨b.bindIp.toList ++ ':' :: (decimal b.hostPort.toNat ++ ['-']), ?_⟩
    simp [PortBinding.text, PortBinding.portText]

theorem names_text (b : PortBinding) :
    Names (PortBinding.portText b.containerPort ++ "/" ++ b.protocol.name) b.containerPort.toNat b.protocol := by
  have hport : Unsigned (PortBinding.portText b.containerPort).toList b.containerPort.toNat := by
    rw [PortBinding.portText, String.toList_ofList]
    exact unsigned_decimal b.containerPort.toNat
  rw [String.append_assoc]
  exact .mk hport (ending_iff.2 (Or.inr rfl))

/-! ## Reading -/

/-- A key is read exactly when it names a port that two bytes hold, as this port and its protocol; so malformed keys
are not read, and of a binding as it is printed the part after the last arrow is read as its container port and its
protocol, whatever its address is. -/
theorem read?_names :
    (∀ (key : String) (k : PortKey), read? key = some k ↔ Names key k.port.toNat k.protocol) ∧
    (∀ key : String, read? key = none ↔ ∀ port protocol, Names key port protocol → 65535 < port) ∧
    (∀ key : String, Malformed key → read? key = none) ∧
    ∀ b : PortBinding, ∃ tail, (∀ t, IsAfterLast '>' b.text t ↔ t = tail) ∧
      read? tail = some ⟨b.containerPort, b.protocol⟩ := by
  refine ⟨fun _ _ => read?_eq_some_iff, fun _ => read?_eq_none_iff, fun _ => Malformed.read?_eq_none, fun b => ?_⟩
  refine ⟨_, fun t => ⟨fun h => h.unique (isAfterLast_text b), ?_⟩, read?_eq_some_iff.2 (names_text b)⟩
  rintro rfl
  exact isAfterLast_text b

/-- Keys with a second protocol or an empty one, without a digit in the port, with a minus sign, a blank or upper-case
letters, and with digits of another script. -/
def unreadKeys : List String :=
  ["80/tcp/udp", "80/", "", "+/tcp", "/udp", "-80", " 80", "80/TCP", "\u0668\u0660/tcp"]

/-- Zeros at the front do not count, and a port is not cut down to the sixteen bits that two bytes hold.  An address
that looks like a key is not taken for one. -/
theorem read?_names_exampleKeys :
    read? "+00000000000000065535/sctp" = some ⟨65535, .sctp⟩ ∧
    read? "0000065616" = none ∧
    (∀ key ∈ unreadKeys, read? key = none) ∧
    ∃ tail, IsAfterLast '>' (PortBinding.mk 80 8080 "::->7/udp" .tcp).text tail ∧
      read? tail = some ⟨80, .tcp⟩ := by
  obtain ⟨hsome, -, hnone, htext⟩ := read?_names
  refine ⟨?_, ?_, ?_, ?_⟩
  · have hlast : Unsigned "+00000000000000065535".toList 65535 := unsigned?_eq_some_iff.1 (by decide)
    exact (hsome _ ⟨65535, .sctp⟩).2 (Names.mk hlast .sctp)
  · have hlarge : Unsigned "0000065616".toList 65616 := unsigned?_eq_some_iff.1 (by decide)
    exact hnone _ (.large (Names.mk hlarge .none) (by decide))
  · have hstray {key : String} (c : Char) (hc : c ∈ key.toList) (h : Stray c) : read? key = none :=
      hnone key (.stray hc h)
    simp only [unreadKeys, List.forall_mem_cons]
    refine ⟨?_, ?_, ?_, ?_, ?_, ?_, ?_, ?_, ?_, List.forall_mem_nil _⟩
    · exact hnone _ (.slashes "80" "tcp" "udp")
    · exact hnone _ (.noName "80")
    · exact hnone _ (.noDigit (Or.inl rfl) (Or.inl rfl))
    · exact hnone _ (.noDigit (Or.inr rfl) (Or.inr ⟨"tcp", rfl⟩))
    · exact hnone _ (.noDigit (Or.inl rfl) (Or.inr ⟨"udp", rfl⟩))
    · exact hstray '-' (by decide) (by decide)
    · exact hstray ' ' (by decide) (by decide)
    · exact hstray 'T' (by decide) (by decide)
    · exact hstray '\u0668' (by decide) (by decide)
  · obtain ⟨tail, htail, hread⟩ := htext ⟨80, 8080, "::->7/udp", .tcp⟩
    exact ⟨tail, (htail tail).2 rfl, hread⟩

end PortKey

end ContainerWatch
