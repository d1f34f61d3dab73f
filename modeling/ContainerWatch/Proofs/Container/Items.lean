import ContainerWatch.Container.ChangeEvent
import ContainerWatch.Proofs.Numeral
import ContainerWatch.Proofs.Text.Separation
/-!
# The written items of a container

A status, a verdict and a number hold no comma.  The items of which a container may have several are printed
as words: published ports, volumes and labels.  Each can be taken apart again.  An address may hold colons
itself, so a port is taken apart at the last colon, since numbers and the name of a protocol hold none; a
volume and a label are taken apart at the first one, which no name holds.

Each kind of item has two lemmas of one shape: what makes its text a word, so that a list of such items can be cut at
the spaces, and what makes its text tell the item.

Main statements: `PortBinding.text_injective`, `Volume.Shown.text_injective` and
`ChangeEvent.labelText_injective`.
-/

namespace ContainerWatch

open Numeral Text

/-! ## Single values -/

/-- The name of a status stays within its segment of a line. -/
theorem Status.freeOf_comma_name (status : Status) : FreeOf ',' status.name := by
  cases status <;> decide

theorem HealthStatus.freeOf_comma_name (status : HealthStatus) : FreeOf ',' status.name := by
  cases status <;> decide

theorem ChangeEvent.freeOf_comma_integerText (n : Int) : FreeOf ',' (integerText n) :=
  freeOf_ofList.2 (notMem_decimalInt rfl (by decide) n)

theorem ChangeEvent.integerText_injective {m n : Int} (h : integerText m = integerText n) : m = n :=
  decimalInt_injective (String.ofList_injective h)

/-! ## Published ports -/

/-- Protocols are told apart by their names, since a name is read back. -/
theorem Protocol.name_injective {p q : Protocol} (h : p.name = q.name) : p = q := by
  have hread := congrArg Protocol.ofName? h
  rw [Protocol.ofName?_name, Protocol.ofName?_name] at hread
  exact Option.some.inj hread

namespace PortBinding

theorem isWord_portText (p : UInt16) : IsWord (portText p) :=
  ⟨freeOf_ofList.2 (notMem_decimal rfl _), freeOf_ofList.2 (notMem_decimal rfl _)⟩

theorem isName_name (p : Protocol) : IsName p.name := by
  cases p <;> decide

/-- A binding is printed as a word when its address is one: the colon, the arrow and the slash between its parts are
neither commas nor blanks. -/
theorem isWord_text {b : PortBinding} (h : IsWord b.bindIp) : IsWord b.text := by
  have hcolon : IsWord ":" := by decide
  have harrow : IsWord "->" := by decide
  have hslash : IsWord "/" := by decide
  exact ((((((h.append hcolon).append (isWord_portText b.hostPort)).append harrow).append
    (isWord_portText b.containerPort)).append hslash).append (isName_name b.protocol).toIsWord)

/-- What a binding prints after its address. -/
def target (b : PortBinding) : List Char :=
  decimal b.hostPort.toNat ++ '-' :: '>' :: (decimal b.containerPort.toNat ++ '/' :: b.protocol.name.toList)

theorem toList_text (b : PortBinding) : b.text.toList = b.bindIp.toList ++ ':' :: b.target := by
  simp [text, portText, target]

/-- No colon stands after the address, so the colon before the target is the last one, however many the address holds.
-/
theorem colon_notMem_target (b : PortBinding) : ':' ∉ b.target := by
  have hhost : ':' ∉ decimal b.hostPort.toNat := notMem_decimal rfl _
  have hcontainer : ':' ∉ decimal b.containerPort.toNat := notMem_decimal rfl _
  have hprotocol : ':' ∉ b.protocol.name.toList := (isName_name b.protocol).colon
  simp [target, hhost, hcontainer, hprotocol]

/-- What stands after the address tells both ports and the protocol: a numeral ends at the first dash, the next one at
the first slash. -/
theorem target_injective {a b : PortBinding} (h : a.target = b.target) :
    a.hostPort = b.hostPort ∧ a.containerPort = b.containerPort ∧ a.protocol = b.protocol := by
  have hdash (p : UInt16) : '-' ∉ decimal p.toNat := notMem_decimal rfl _
  have hslash (p : UInt16) : '/' ∉ decimal p.toNat := notMem_decimal rfl _
  obtain ⟨hhost, hrest⟩ := eq_of_append_cons (hdash a.hostPort) (hdash b.hostPort) h
  obtain ⟨hcontainer, hname⟩ :=
    eq_of_append_cons (hslash a.containerPort) (hslash b.containerPort) (List.cons.inj hrest).2
  refine ⟨UInt16.toNat_inj.1 (decimal_injective hhost), ?_, ?_⟩
  · exact UInt16.toNat_inj.1 (decimal_injective hcontainer)
  · exact Protocol.name_injective (String.toList_injective hname)

/-- No two bindings are printed alike, whatever their addresses hold.  So addresses of the newer protocol, which are
written with colons, need no care. -/
theorem text_injective {a b : PortBinding} (h : a.text = b.text) : a = b := by
  have hlist := congrArg String.toList h
  rw [toList_text, toList_text] at hlist
  obtain ⟨haddress, htarget⟩ :=
    eq_of_append_cons_of_last (colon_notMem_target a) (colon_notMem_target b) hlist
  obtain ⟨hhost, hcontainer, hprotocol⟩ := target_injective htarget
  cases a
  cases b
  rw [PortBinding.mk.injEq]
  exact ⟨hcontainer, hhost, String.toList_injective haddress, hprotocol⟩

end PortBinding

/-! ## Volumes -/

namespace Volume

/-- What is printed of a volume. -/
structure Shown where
  source : String
  destination : String
  readWrite : Bool
  deriving DecidableEq

/-- What is printed of a volume. -/
def shown (v : Volume) : Shown := ⟨v.source, v.destination, v.readWrite⟩

namespace Shown

/-- The text of a volume of which that much is known. -/
def text (v : Shown) : String := v.source ++ ":" ++ v.destination ++ (if v.readWrite then "" else ":ro")

theorem isWord_text {v : Shown} (hs : IsWord v.source) (hd : IsWord v.destination) : IsWord v.text := by
  have hcolon : IsWord ":" := by decide
  have hmark : IsWord (if v.readWrite then "" else ":ro") := by split <;> decide
  exact ((hs.append hcolon).append hd).append hmark

/-- The mark of a volume that cannot be written. -/
def mark : Bool → List Char
  | true => []
  | false => [':', 'r', 'o']

theorem toList_text (v : Shown) :
    v.text.toList = v.source.toList ++ ':' :: (v.destination.toList ++ mark v.readWrite) := by
  cases h : v.readWrite <;> simp [text, mark, h]

/-- The mark is the only colon after a destination that has none.  So what is written after the first colon tells the
destination and whether the volume can be written. -/
theorem append_mark_injective {d e : List Char} (hd : ':' ∉ d) (he : ':' ∉ e) {r s : Bool}
    (h : d ++ mark r = e ++ mark s) : d = e ∧ r = s := by
  cases r with
  | true =>
    cases s with
    | true => exact ⟨List.append_cancel_right h, rfl⟩
    | false => exact absurd (h.symm.trans (List.append_nil d)) (append_cons_ne hd)
  | false =>
    cases s with
    | true => exact absurd (h.trans (List.append_nil e)) (append_cons_ne he)
    | false => exact ⟨List.append_cancel_right h, rfl⟩

/-- Volumes without colons in their names are not printed alike.  A destination that ends like the mark is no trouble,
since the mark brings its own colon. -/
theorem text_injective {v w : Shown} (hvs : FreeOf ':' v.source) (hvd : FreeOf ':' v.destination)
    (hws : FreeOf ':' w.source) (hwd : FreeOf ':' w.destination) (h : v.text = w.text) : v = w := by
  have hlist := congrArg String.toList h
  rw [toList_text, toList_text] at hlist
  obtain ⟨hsource, hrest⟩ := eq_of_append_cons hvs hws hlist
  obtain ⟨hdestination, hwrite⟩ := append_mark_injective hvd hwd hrest
  cases v
  cases w
  rw [Shown.mk.injEq]
  exact ⟨String.toList_injective hsource, String.toList_injective hdestination, hwrite⟩

end Shown

end Volume

/-! ## Labels -/

namespace ChangeEvent

/-- A label as it is printed. -/
def labelText (entry : String × String) : String := entry.1 ++ ":" ++ entry.2

theorem isWord_labelText {entry : String × String} (hkey : IsWord entry.1) (hvalue : IsWord entry.2) :
    IsWord (labelText entry) := by
  have hcolon : IsWord ":" := by decide
  exact (hkey.append hcolon).append hvalue

/-- Labels without colons in their keys are not printed alike, whatever their values hold. -/
theorem labelText_injective {a b : String × String} (ha : FreeOf ':' a.1) (hb : FreeOf ':' b.1)
    (h : labelText a = labelText b) : a = b := by
  have hlist := congrArg String.toList h
  simp only [labelText, String.toList_append, List.append_assoc] at hlist
  obtain ⟨hkey, hvalue⟩ := eq_of_append_cons ha hb hlist
  exact Prod.ext (String.toList_injective hkey) (String.toList_injective hvalue)

end ChangeEvent

theorem Dictionary.ext_entries {d e : Dictionary} (h : d.entries = e.entries) : d = e := by
  cases d
  cases e
  rw [Dictionary.mk.injEq]
  exact h

end ContainerWatch
