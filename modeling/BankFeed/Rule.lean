import BankFeed.Clause.Basic

/-!
# Rules

A rule belongs to a tenant, looks at one direction of payments and joins its clauses by "all"
or "any". Rules are tried in order of priority, older rules first among equals.
-/

namespace BankFeed

structure Rule where
  id : String
  tenantId : String
  name : String
  appliesTo : Direction
  matchesOnAll : Bool
  autoConvert : Bool
  clientId : Option String
  vendorId : Option String
  categoryId : Option String
  priority : UInt32
  clauses : List Clause
  createdAt : Timestamp
  deriving DecidableEq

namespace Rule

def create (now : Timestamp) (id tenantId name : String) (appliesTo : Direction) : Rule where
  id := id
  tenantId := tenantId
  name := name
  appliesTo := appliesTo
  matchesOnAll := false
  autoConvert := false
  clientId := none
  vendorId := none
  categoryId := none
  priority := 0
  clauses := []
  createdAt := now

def withClause (rule : Rule) (clause : Clause) : Rule :=
  { rule with clauses := rule.clauses ++ [clause] }

/-- Whether the rule accepts a transaction. A rule without clauses accepts none. -/
def accepts (rule : Rule) (t : Transaction) : Bool :=
  if rule.clauses.isEmpty then false
  else if rule.matchesOnAll then rule.clauses.all (·.accepts t)
  else rule.clauses.any (·.accepts t)

def covers (rule : Rule) (tenantId : String) (direction : Direction) : Bool :=
  rule.tenantId == tenantId && rule.appliesTo == direction

def order (a b : Rule) : Ordering :=
  (compare a.priority b.priority).then (a.createdAt.cmp b.createdAt)

/-- Rules in the order in which they are tried; equal ones keep their order. -/
def sorted (rules : List Rule) : List Rule :=
  rules.mergeSort fun a b => a.order b != .gt

def applicable (tenantId : String) (direction : Direction) (rules : List Rule) : List Rule :=
  sorted (rules.filter (·.covers tenantId direction))

theorem covers_iff {rule : Rule} {tenantId : String} {direction : Direction} :
    rule.covers tenantId direction = true ↔
      rule.tenantId = tenantId ∧ rule.appliesTo = direction := by
  simp [covers]

theorem filter_covers (tenantId : String) (direction : Direction) (rules : List Rule) :
    rules.filter (·.covers tenantId direction) =
      rules.filter fun rule => rule.tenantId = tenantId ∧ rule.appliesTo = direction := by
  apply List.filter_congr
  intro rule _
  exact Bool.eq_iff_iff.mpr (covers_iff.trans decide_eq_true_iff.symm)

theorem mem_applicable {rule : Rule} {tenantId : String} {direction : Direction}
    {rules : List Rule} :
    rule ∈ applicable tenantId direction rules ↔
      rule ∈ rules ∧ rule.covers tenantId direction = true := by
  simp [applicable, sorted]

end Rule
end BankFeed
