import ActionBridge.Computer
import ActionBridge.Proofs.Decimal.Integers
import ActionBridge.Proofs.Text.Splitting

/-!
# Listening

An address names a port of a host behind its last colon. The adapter listens there unless the system
refuses to, and cannot listen at an address that names no port (`Computer.listen_eq_ok_iff`).
-/
namespace ActionBridge

/-- An address names a port of a host. -/
def NamesPort (address host : String) (port : Nat) : Prop :=
  ∃ digits, address.toList = host.toList ++ ':' :: digits ∧ ':' ∉ digits ∧
    Decimal.Unsigned port digits ∧ port < Nat.pow 2 16

namespace Computer

/-- Why the adapter cannot listen at an address. -/
inductive CannotListen (computer : Computer) (address : String) : Prop
  | portless (unnamed : ∀ host port, ¬ NamesPort address host port)
  | refused {host reason : String} {port : Nat} (names : NamesPort address host port)
      (refuses : computer.refusal host port = some reason)

theorem splitLast_of_namesPort {address host : String} {port : Nat} (names : NamesPort address host port) :
    ∃ digits, Text.splitLast ':' address.toList = some (host.toList, digits) ∧
      Decimal.unsigned? 16 (String.ofList digits) = some port := by
  obtain ⟨digits, split, clean, written, small⟩ := names
  refine ⟨digits, Text.splitLast_eq_some_iff.mpr ⟨split, clean⟩, Decimal.unsigned?_eq_some_iff.mpr ⟨?_, small⟩⟩
  rwa [String.toList_ofList]

theorem namesPort_of_splitLast {address : String} {host digits : List Char} {port : Nat}
    (split : Text.splitLast ':' address.toList = some (host, digits))
    (read : Decimal.unsigned? 16 (String.ofList digits) = some port) :
    NamesPort address (String.ofList host) port := by
  obtain ⟨whole, clean⟩ := Text.splitLast_eq_some_iff.mp split
  obtain ⟨written, small⟩ := Decimal.unsigned?_eq_some_iff.mp read
  rw [String.toList_ofList] at written
  exact ⟨digits, by rw [String.toList_ofList, whole], clean, written, small⟩

/-- The adapter listens, or there is a reason why it cannot. -/
theorem listen_cases (computer : Computer) (address : String) :
    computer.listen address = .ok () ∧ ¬ computer.CannotListen address ∨
      (∃ fault, computer.listen address = .error fault) ∧ computer.CannotListen address := by
  rw [listen]
  cases split : Text.splitLast ':' address.toList with
  | none =>
    refine .inr ⟨⟨_, rfl⟩, .portless fun host port names => ?_⟩
    obtain ⟨digits, found, -⟩ := splitLast_of_namesPort names
    cases split.symm.trans found
  | some parts =>
    obtain ⟨host, digits⟩ := parts
    dsimp only
    cases read : Decimal.unsigned? 16 (String.ofList digits) with
    | none =>
      refine .inr ⟨⟨_, rfl⟩, .portless fun host port names => ?_⟩
      obtain ⟨digits, found, known⟩ := splitLast_of_namesPort names
      cases split.symm.trans found
      cases read.symm.trans known
    | some port =>
      have names := namesPort_of_splitLast split read
      dsimp only
      cases refuses : computer.refusal (String.ofList host) port with
      | some reason => exact .inr ⟨⟨_, rfl⟩, .refused names refuses⟩
      | none =>
        refine .inl ⟨rfl, fun cannot => ?_⟩
        cases cannot with
        | portless unnamed => exact unnamed _ _ names
        | @refused host₁ reason port₁ names₁ refuses₁ =>
          obtain ⟨digits₁, found, known⟩ := splitLast_of_namesPort names₁
          cases split.symm.trans found
          cases read.symm.trans known
          rw [String.ofList_toList] at refuses
          cases refuses.symm.trans refuses₁

theorem listen_eq_ok_iff {computer : Computer} {address : String} :
    computer.listen address = .ok () ↔ ¬ computer.CannotListen address := by
  rcases computer.listen_cases address with ⟨listens, can⟩ | ⟨⟨fault, fails⟩, cannot⟩
  · exact iff_of_true listens can
  · refine iff_of_false (fun listens => ?_) (not_not.mpr cannot)
    cases fails.symm.trans listens

end Computer
end ActionBridge
