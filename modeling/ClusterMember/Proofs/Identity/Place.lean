import ClusterMember.Identity.Basic
import ClusterMember.Proofs.Text.Decimal

/-!
# Places of nodes

A node has its place at a host and a port.  Since no host name holds a colon, the text of host and
port tells places apart.
-/

namespace ClusterMember
namespace Identity

/-- Where a node is, whenever it started. -/
def place (identity : Identity) : String × UInt16 := (identity.host, identity.port)

theorem sameHostAndPort_iff (a b : Identity) :
    sameHostAndPort a b = true ↔ a.place = b.place := by
  simp [sameHostAndPort, place]

/-- What stands before the first separator is told from the rest. -/
theorem takeWhile_append_separator {separator : Char} {front : List Char}
    (absent : separator ∉ front) (back : List Char) :
    (front ++ separator :: back).takeWhile (· ≠ separator) = front := by
  have inside : ∀ c ∈ front, decide (c ≠ separator) = true := by
    rintro c mem
    simp only [decide_eq_true_eq]
    rintro rfl
    exact absent mem
  rw [List.takeWhile_append_of_pos inside]
  simp

/-- Different places have different texts. -/
theorem hostAndPort_eq_iff (a b : Identity) :
    a.hostAndPort = b.hostAndPort ↔ a.place = b.place := by
  constructor
  · intro same
    have chars : a.host.toList ++ ':' :: Decimal.digits a.port.toNat =
        b.host.toList ++ ':' :: Decimal.digits b.port.toNat := by
      simpa [hostAndPort, Decimal.toList_write] using congrArg String.toList same
    have host_eq := congrArg (List.takeWhile (· ≠ ':')) chars
    rw [takeWhile_append_separator a.validHost.separates,
      takeWhile_append_separator b.validHost.separates] at host_eq
    rw [host_eq, List.append_cancel_left_eq, List.cons.injEq] at chars
    have port_eq := UInt16.toNat_inj.1 (Decimal.digits_injective chars.2)
    exact Prod.ext (String.toList_inj.1 host_eq) port_eq
  · intro same
    obtain ⟨host_eq, port_eq⟩ := Prod.ext_iff.1 same
    simp only [place] at host_eq port_eq
    rw [hostAndPort, hostAndPort, host_eq, port_eq]

theorem isRestartOf_iff (a b : Identity) :
    a.isRestartOf b = true ↔ a.place = b.place ∧ a.startTime ≠ b.startTime := by
  rw [isRestartOf, Bool.and_eq_true, sameHostAndPort_iff, bne_iff_ne]

end Identity
end ClusterMember
