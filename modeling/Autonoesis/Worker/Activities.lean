import Autonoesis.Application.Writes
import Autonoesis.Domain.Uuids

/-!
# The activities of the worker

An activity is handed texts and reads the platform's records anew: a signal or an input names a
record, and never stands for one.
-/

namespace Autonoesis
open Base

structure ApprovalLookupInput where
  tenantId : String
  runId : String
  approvalId : String

structure ApprovalState where
  approvalId : String
  status : String

/-- `load_approval`. -/
def loadApproval (input : ApprovalLookupInput) : StoreTx ApprovalState := do
  let tenantId ← Tx.ofExcept (Uuid.parse input.tenantId)
  let approvalId ← Tx.ofExcept (Uuid.parse input.approvalId)
  let approval ← Store.getApproval tenantId approvalId
  let runId ← Tx.ofExcept (Uuid.parse input.runId)
  Tx.check (approval.runId ≠ runId)
    (.permissionError "Approval Signal does not belong to the Workflow Run")
  return ⟨approval.approvalId.str, approval.status.value⟩

/-- What `load_approval` answers with is read off an approval of the Run. -/
theorem loadApproval_ok {input : ApprovalLookupInput} {s : Store} {r : ApprovalState × Store}
    (ran : loadApproval input s = .ok r) :
    ∃ id approval, Uuid.parse input.approvalId = .ok id ∧ s.approvals.get? id = some approval ∧
      Uuid.parse input.tenantId = .ok approval.tenantId ∧
      Uuid.parse input.runId = .ok approval.runId ∧ r.1.status = approval.status.value := by
  simp only [loadApproval, Tx.bind_ok, Tx.ofExcept_ok, Tx.check_ok, Tx.pure_ok] at ran
  obtain ⟨tenantId, _, ⟨tenant, rfl⟩, id, _, ⟨named, rfl⟩, approval, _, found, runId, _,
    ⟨run, rfl⟩, _, _, ⟨same, rfl⟩, rfl⟩ := ran
  simp only [ne_eq, decide_eq_false_iff_not, not_not] at same
  obtain ⟨stored, owned, rfl⟩ := Store.getApproval_found found
  exact ⟨id, approval, named, stored, owned ▸ tenant, same ▸ run, rfl⟩

end Autonoesis
