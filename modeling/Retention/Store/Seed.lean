import Retention.Store.Insert

/-!
# Seeds

Rows for a store, told by what they point at and when they are from.
-/

namespace Retention.Store

inductive Seed
  | repository (name : String) (id? : Option Int)
  | lookups (kind : LookupKind) (count : Nat) (id? : Option Int)
  /-- Jobs that share their lookup rows, each with so many dependents of each kind. -/
  | jobs (submitted : String) (jobType jobGroup machine : Int) (count dependents : Nat)
      (id? : Option Int)
  /-- Jobs with lookup rows of their own and one dependent of each kind. -/
  | ownJobs (submitted : String) (count : Nat)
  | pin (job : Int)
  | data (pushed : String) (repository : Int) (count : Nat) (id? : Option Int)
  | drop (table : TableName)
deriving Repr

namespace Seed

/-- Puts the rows into the store; the keys are those of the rows that were told, without their
dependents and lookup rows. -/
def sow (s : Store) : Seed → Insertion
  | .repository name id? => s.insertRepository name id?
  | .lookups kind count id? => s.insertLookups kind id? count
  | .jobs submitted jobType jobGroup machine count dependents id? =>
    s.insertJobs submitted jobType jobGroup machine id? count |>.withDependents dependents
  | .ownJobs submitted count => .series s (List.replicate count fun s => insertOwnJob s submitted)
  | .pin job => s.insertAttachments .pin job 1
  | .data pushed parent count id? => s.insertData parent pushed id? count
  | .drop table => ⟨[], s.drop table, none⟩

/-- Sows one seed after the other, each whatever became of those before it. -/
def sowAll (s : Store) (seeds : List Seed) : Store :=
  seeds.foldl (fun s seed => (sow s seed).store) s

end Seed

end Retention.Store
