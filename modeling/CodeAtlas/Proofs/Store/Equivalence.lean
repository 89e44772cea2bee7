import CodeAtlas.Proofs.Store.Memory
import CodeAtlas.Proofs.Store.Tables

/-!
# Both stores answer alike

Whatever is asked of a fresh store, and in whatever order, the store in memory and the store in tables
succeed and fail together and give the same answers.
-/

namespace CodeAtlas

/-- Both stores keep to the same plain store throughout. -/
theorem outcomes_memory_eq_outcomes_tables (calls : List Call) :
    (Call.outcomes MemoryStore.fresh calls).map Except.toOption =
      (Call.outcomes TableStore.fresh calls).map Except.toOption := by
  have hmemory := MemoryStore.Shows.simulation.outcomes MemoryStore.Shows.fresh calls
  have htables := TableStore.Shows.simulation.outcomes TableStore.Shows.missing calls
  exact hmemory.trans htables.symm

end CodeAtlas
