import CertConsole.Proofs.Port
import CertConsole.Proofs.Simulation

/-!
# Ports in lockstep

A simulation is judged at whole lines and whole buffers. The loops that write a buffer and collect a
line take the same turns on two ports whose single writes, or single reads, agree. Two ports that
agree at every single operation are in lockstep, and `Lockstep.simulation` makes a simulation of
this.
-/
namespace CertConsole.Port

variable {σ τ : Type} [Port σ] [Port τ]

/-- Related ports agree at every single operation and stay related. -/
structure Lockstep (related : σ → τ → Prop) : Prop where
  name : ∀ {left right}, related left right → Port.name left = Port.name right
  patience : ∀ {left right}, related left right → Port.patience left = Port.patience right
  pause : ∀ span {left right}, related left right →
    related (Port.pause span left) (Port.pause span right)
  read : ∀ {left right}, related left right → Agree related (Port.read left) (Port.read right)
  write : ∀ bytes {left right}, related left right →
    Agree related (Port.write bytes left) (Port.write bytes right)
  flush : ∀ {left right}, related left right → Agree related (Port.flush left) (Port.flush right)
  clear : ∀ {left right}, related left right → Agree related (Port.clear left) (Port.clear right)
  clearEvents : ∀ {left right}, related left right →
    Port.clearEvents left = Port.clearEvents right
  close : ∀ {left right}, related left right → Agree related (Port.close left) (Port.close right)
  closeEvents : ∀ {left right}, related left right →
    Port.closeEvents left = Port.closeEvents right

section Loops

variable {related : σ → τ → Prop}

/-- Where writes agree a buffer is written with the same outcome. -/
theorem writeAll_agree
    (offered : ∀ bytes {left : σ} {right : τ}, related left right →
      Agree related (Port.write bytes left) (Port.write bytes right))
    (bytes : List UInt8) (left : σ) {right : τ} (held : related left right) :
    Agree related (writeAll bytes left) (writeAll bytes right) := by
  -- What a write does on one side it does on the other.
  have same {bytes : List UInt8} {left next : σ} {right : τ} {result : WriteResult}
      (held : related left right) (wrote : Port.write bytes left = (result, next)) :
      ∃ last, Port.write bytes right = (result, last) ∧ related next last := by
    obtain ⟨same, after⟩ := offered bytes held
    rw [wrote] at same after
    exact ⟨_, Prod.ext same.symm rfl, after⟩
  induction bytes, left using Port.writeAll.induct generalizing right with
  | case1 left =>
    rw [writeAll_nil, writeAll_nil]
    exact ⟨rfl, held⟩
  | case2 left byte rest next result =>
    obtain ⟨last, wrote, after⟩ := same held result
    rw [writeAll_cons, writeAll_cons, result, wrote]
    exact ⟨rfl, after⟩
  | case3 left byte rest count next result _ ih =>
    obtain ⟨last, wrote, after⟩ := same held result
    rw [writeAll_cons, writeAll_cons, result, wrote]
    exact ih after
  | case4 left byte rest error next result interrupted _ ih =>
    obtain ⟨last, wrote, after⟩ := same held result
    rw [writeAll_cons, writeAll_cons, result, wrote]
    simp only [interrupted, ↓reduceIte]
    exact ih after
  | case5 left byte rest error next result fatal =>
    obtain ⟨last, wrote, after⟩ := same held result
    rw [writeAll_cons, writeAll_cons, result, wrote]
    simp only [fatal, ↓reduceIte]
    exact ⟨rfl, after⟩

/-- Where writes and flushes agree a buffer is delivered with the same outcome. -/
theorem deliver_agree
    (offered : ∀ bytes {left : σ} {right : τ}, related left right →
      Agree related (Port.write bytes left) (Port.write bytes right))
    (flushed : ∀ {left : σ} {right : τ}, related left right →
      Agree related (Port.flush left) (Port.flush right))
    (bytes : List UInt8) {left : σ} {right : τ} (held : related left right) :
    Agree related (deliver bytes left) (deliver bytes right) := by
  obtain ⟨same, after⟩ := writeAll_agree offered bytes left held
  rw [deliver_eq, deliver_eq]
  rcases here : writeAll bytes left with ⟨error | ⟨⟩, next⟩ <;>
    rcases there : writeAll bytes right with ⟨error' | ⟨⟩, last⟩ <;>
    rw [here, there] at same after <;> cases same
  · exact ⟨rfl, after⟩
  · exact flushed after

/-- Where reads agree the same line is collected. -/
theorem collectLine_agree
    (reads : ∀ {left : σ} {right : τ}, related left right →
      Agree related (Port.read left) (Port.read right))
    (patience : Nat) {left : σ} {right : τ} (held : related left right) :
    Agree related (collectLine patience left) (collectLine patience right) := by
  induction patience generalizing left right with
  | zero =>
    obtain ⟨same, after⟩ := reads held
    rw [collectLine_zero, collectLine_zero, same]
    cases verdict (Port.read right).1 <;> exact ⟨rfl, after⟩
  | succ patience ih =>
    obtain ⟨same, after⟩ := reads held
    obtain ⟨rest, last⟩ := ih after
    rw [collectLine_succ, collectLine_succ, same]
    cases verdict (Port.read right).1 with
    | ends bytes => exact ⟨rfl, after⟩
    | fails error => exact ⟨rfl, after⟩
    | continues bytes => exact ⟨congrArg (·.map (bytes ++ ·)) rest, last⟩

/-- Where reads agree and are as patient the same line is read. -/
theorem readLine_agree
    (reads : ∀ {left : σ} {right : τ}, related left right →
      Agree related (Port.read left) (Port.read right))
    {left : σ} {right : τ} (held : related left right)
    (patient : Port.patience left = Port.patience right) :
    Agree related (readLine left) (readLine right) := by
  obtain ⟨same, after⟩ := collectLine_agree reads (Port.patience left) held
  rw [readLine_eq, readLine_eq, ← patient]
  exact ⟨congrArg (·.map Reply.decodeLine) same, after⟩

end Loops

section Kept

variable {holds : σ → Prop}

/-- What writing and flushing keep is kept by delivering a buffer. -/
theorem deliver_keeps (writes : ∀ bytes {port : σ}, holds port → holds (Port.write bytes port).2)
    (flushes : ∀ {port : σ}, holds port → holds (Port.flush port).2) (bytes : List UInt8)
    {port : σ} (held : holds port) : holds (deliver bytes port).2 := by
  -- A port agrees with itself, and what holds of it is carried along.
  have write (bytes : List UInt8) {left right : σ} (same : left = right ∧ holds left) :
      Agree (fun left right => left = right ∧ holds left) (Port.write bytes left)
        (Port.write bytes right) := by
    obtain ⟨rfl, held⟩ := same
    exact ⟨rfl, rfl, writes bytes held⟩
  have flush {left right : σ} (same : left = right ∧ holds left) :
      Agree (fun left right => left = right ∧ holds left) (Port.flush left) (Port.flush right) := by
    obtain ⟨rfl, held⟩ := same
    exact ⟨rfl, rfl, flushes held⟩
  exact (deliver_agree write flush bytes ⟨rfl, held⟩).2.2

/-- What reading a byte keeps is kept by reading a line. -/
theorem readLine_keeps (reads : ∀ {port : σ}, holds port → holds (Port.read port).2)
    {port : σ} (held : holds port) : holds (readLine port).2 := by
  have read {left right : σ} (same : left = right ∧ holds left) :
      Agree (fun left right => left = right ∧ holds left) (Port.read left) (Port.read right) := by
    obtain ⟨rfl, held⟩ := same
    exact ⟨rfl, rfl, reads held⟩
  exact (readLine_agree read ⟨rfl, held⟩ rfl).2.2

end Kept

/-- Ports in lockstep cannot be told apart by an upload. -/
theorem Lockstep.simulation {related : σ → τ → Prop} (lockstep : Lockstep related) :
    Port.Simulation related where
  name := lockstep.name
  pause := lockstep.pause
  deliver bytes _ _ held := deliver_agree lockstep.write lockstep.flush bytes held
  readLine held := readLine_agree lockstep.read held (lockstep.patience held)
  clear := lockstep.clear
  clearEvents := lockstep.clearEvents
  close := lockstep.close
  closeEvents := lockstep.closeEvents

end CertConsole.Port
