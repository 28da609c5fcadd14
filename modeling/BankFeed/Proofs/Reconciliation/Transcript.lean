import BankFeed.Proofs.Reconciliation.Shape

/-!
# The calls of a reconciliation

Whatever a host answers, the calls of a reconciliation follow one pattern: it asks for the rules,
looks for invoices and finds none, and comes to an ending of at most three calls. From the
pattern follows which call may stand where, and what stands before it and after it.
-/

namespace BankFeed
namespace Reconciliation

variable {σ : Type} {settings : Settings} {now : Timestamp} {t : Transaction}
  {rules : List Rule} {history before after opening ending : List Exchange}
  {result : Except Failure Transaction}

/-!
## The pattern
-/

def refusal (t : Transaction) : Except Failure Bool → Failure
  | .error e => e
  | .ok _ => .alreadyReconciled t.id

def written (now : Timestamp) (t : Transaction) (status : Status) (update : StatusUpdate) :
    Except Failure Bool → Except Failure Transaction
  | .ok true => .ok (t.applyUpdate now status update)
  | refused => .error (refusal t refused)

def missedLookUp (t : Transaction) : Exchange :=
  ⟨.findByNumber t.tenantId t.descriptionOrEmpty, .ok none⟩

/-- The calls with which a search may end, and what the reconciliation then comes to. -/
inductive Ending (now : Timestamp) (t : Transaction) (rules : List Rule) :
    List Exchange → Except Failure Transaction → Prop where
  | leave : Ending now t rules [] (.ok t)
  | lookUpFailed (credit : t.direction = .credit) (named : t.descriptionOrEmpty ≠ "")
      (e : Failure) :
      Ending now t rules [⟨.findByNumber t.tenantId t.descriptionOrEmpty, .error e⟩] (.error e)
  | link (credit : t.direction = .credit) (named : t.descriptionOrEmpty ≠ "")
      (invoiceId : String) (answer : Except Failure Bool) :
      Ending now t rules
        [⟨.findByNumber t.tenantId t.descriptionOrEmpty, .ok (some invoiceId)⟩,
          ⟨.compareAndSet t.id .unmatched .matched (matchUpdate invoiceId), answer⟩]
        (written now t .matched (matchUpdate invoiceId) answer)
  | creationFailed {rule : Rule} (mem : rule ∈ rules) (accepts : rule.accepts t = true)
      (converts : rule.autoConvert = true) (e : Failure) :
      Ending now t rules [⟨.create (.ofConversion t rule), .error e⟩]
        (.error (.conversionFailed e.message))
  | convert {rule : Rule} (mem : rule ∈ rules) (accepts : rule.accepts t = true)
      (converts : rule.autoConvert = true) (expenseId : String) :
      Ending now t rules
        [⟨.create (.ofConversion t rule), .ok expenseId⟩,
          ⟨.compareAndSet t.id .unmatched .converted
            (conversionUpdate (.ofConversion t rule) expenseId), .ok true⟩]
        (.ok (t.applyUpdate now .converted
          (conversionUpdate (.ofConversion t rule) expenseId)))
  | concede {rule : Rule} (mem : rule ∈ rules) (accepts : rule.accepts t = true)
      (converts : rule.autoConvert = true) (expenseId : String) (answer : Except Failure Bool)
      (refused : answer ≠ .ok true) (discarded : Except Failure Unit) :
      Ending now t rules
        [⟨.create (.ofConversion t rule), .ok expenseId⟩,
          ⟨.compareAndSet t.id .unmatched .converted
            (conversionUpdate (.ofConversion t rule) expenseId), answer⟩,
          ⟨.discard expenseId, discarded⟩]
        (.error (refusal t answer))

theorem ending_convert (answering : Run.Answering σ) (s : σ) {rule : Rule}
    (mem : rule ∈ rules) (accepts : rule.accepts t = true) (converts : rule.autoConvert = true) :
    Ending now t rules ((convert now t rule).play answering s).history
      ((convert now t rule).play answering s).result := by
  rw [convert_eq]
  simp only [Run.play]
  cases (answering (.create (.ofConversion t rule)) s).1 with
  | error e => exact .creationFailed mem accepts converts e
  | ok expenseId =>
      simp only [writeConversion, Run.play]
      generalize answering _ _ = answered
      rcases answered with ⟨answer, s'⟩
      rcases answer with e | _ | _
      · exact .concede mem accepts converts expenseId (.error e) (by simp) _
      · exact .concede mem accepts converts expenseId (.ok false) (by simp) _
      · exact .convert mem accepts converts expenseId

theorem ending_matchInvoice (answering : Run.Answering σ) (s : σ) (invoiceId : String)
    (credit : t.direction = .credit) (named : t.descriptionOrEmpty ≠ "") :
    Ending now t rules
      (⟨.findByNumber t.tenantId t.descriptionOrEmpty, .ok (some invoiceId)⟩ ::
        ((matchInvoice now t invoiceId).play answering s).history)
      ((matchInvoice now t invoiceId).play answering s).result := by
  rw [matchInvoice_eq]
  simp only [Run.play]
  generalize answering _ _ = answered
  rcases answered with ⟨answer, s'⟩
  rcases answer with e | _ | _
  · exact .link credit named invoiceId (.error e)
  · exact .link credit named invoiceId (.ok false)
  · exact .link credit named invoiceId (.ok true)

/-- A search misses any number of invoices and then ends. -/
theorem exists_ending (answering : Run.Answering σ) {run : Run Transaction}
    (h : Searches now t rules run) (s : σ) :
    ∃ misses ending, Ending now t rules ending (run.play answering s).result ∧
      (0 < misses → t.direction = .credit ∧ t.descriptionOrEmpty ≠ "") ∧
      (run.play answering s).history = List.replicate misses (missedLookUp t) ++ ending := by
  induction h generalizing s with
  | leave => exact ⟨0, [], .leave, by simp, rfl⟩
  | convert mem accepts converts =>
      exact ⟨0, _, ending_convert answering s mem accepts converts, by simp, rfl⟩
  | @look missed credit named next ih =>
      simp only [Run.play]
      generalize answering _ s = answered
      rcases answered with ⟨answer, s'⟩
      cases answer with
      | error e => exact ⟨0, _, .lookUpFailed credit named e, by simp, rfl⟩
      | ok found =>
          cases found with
          | some invoiceId =>
              exact ⟨0, _, ending_matchInvoice answering s' invoiceId credit named, by simp, rfl⟩
          | none =>
              rcases ih s' with ⟨misses, ending, hending, _, hhistory⟩
              refine ⟨misses + 1, ending, hending, fun _ => ⟨credit, named⟩, ?_⟩
              simp only [afterLookUp, hhistory, List.replicate_succ, List.cons_append]
              rfl

/-!
## Positions in an ending
-/

theorem split_one {a x : Exchange} (h : [a] = before ++ x :: after) :
    before = [] ∧ x = a ∧ after = [] := by
  simpa [List.cons_eq_append_iff] using h

theorem split_two {a b x : Exchange} (h : [a, b] = before ++ x :: after) :
    (before = [] ∧ x = a ∧ after = [b]) ∨ (before = [a] ∧ x = b ∧ after = []) := by
  rcases List.cons_eq_append_iff.mp h with ⟨hbefore, hrest⟩ | ⟨before', hbefore, hrest⟩
  · injection hrest with hx hafter
    exact .inl ⟨hbefore, hx, hafter⟩
  · rcases split_one hrest with ⟨rfl, hx, hafter⟩
    exact .inr ⟨hbefore, hx, hafter⟩

theorem split_three {a b c x : Exchange} (h : [a, b, c] = before ++ x :: after) :
    (before = [] ∧ x = a ∧ after = [b, c]) ∨ (before = [a] ∧ x = b ∧ after = [c]) ∨
      (before = [a, b] ∧ x = c ∧ after = []) := by
  rcases List.cons_eq_append_iff.mp h with ⟨hbefore, hrest⟩ | ⟨before', hbefore, hrest⟩
  · injection hrest with hx hafter
    exact .inl ⟨hbefore, hx, hafter⟩
  · rcases split_two hrest with ⟨rfl, hx, hafter⟩ | ⟨rfl, hx, hafter⟩
    · exact .inr (.inl ⟨hbefore, hx, hafter⟩)
    · exact .inr (.inr ⟨hbefore, hx, hafter⟩)

namespace Ending

theorem at_lookUp {tenantId number : String} {found : Except Failure (Option String)}
    (h : Ending now t rules ending result)
    (hcalls : ending = before ++ ⟨.findByNumber tenantId number, found⟩ :: after) :
    (t.direction = .credit ∧ t.descriptionOrEmpty ≠ "") ∧
      tenantId = t.tenantId ∧ number = t.descriptionOrEmpty := by
  cases h with
  | leave => simp at hcalls
  | lookUpFailed credit named e =>
      rcases split_one hcalls with ⟨_, hx, _⟩
      cases hx
      exact ⟨⟨credit, named⟩, rfl, rfl⟩
  | link credit named invoiceId answer =>
      rcases split_two hcalls with ⟨_, hx, _⟩ | ⟨_, hx, _⟩
      · cases hx
        exact ⟨⟨credit, named⟩, rfl, rfl⟩
      · cases hx
  | creationFailed =>
      rcases split_one hcalls with ⟨_, hx, _⟩
      cases hx
  | convert =>
      rcases split_two hcalls with ⟨_, hx, _⟩ | ⟨_, hx, _⟩ <;> cases hx
  | concede =>
      rcases split_three hcalls with ⟨_, hx, _⟩ | ⟨_, hx, _⟩ | ⟨_, hx, _⟩ <;> cases hx

theorem at_create {draft : ExpenseDraft} {created : Except Failure String}
    (h : Ending now t rules ending result)
    (hcalls : ending = before ++ ⟨.create draft, created⟩ :: after) :
    (∃ rule ∈ rules, rule.accepts t = true ∧ rule.autoConvert = true ∧
      draft = .ofConversion t rule) ∧
    (∀ expenseId, created = .ok expenseId → ∃ answer rest,
      after = ⟨.compareAndSet t.id .unmatched .converted
        (conversionUpdate draft expenseId), answer⟩ :: rest) := by
  cases h with
  | leave => simp at hcalls
  | lookUpFailed =>
      rcases split_one hcalls with ⟨_, hx, _⟩
      cases hx
  | link =>
      rcases split_two hcalls with ⟨_, hx, _⟩ | ⟨_, hx, _⟩ <;> cases hx
  | @creationFailed rule mem accepts converts e =>
      rcases split_one hcalls with ⟨_, hx, _⟩
      cases hx
      exact ⟨⟨rule, mem, accepts, converts, rfl⟩, nofun⟩
  | @convert rule mem accepts converts expenseId =>
      rcases split_two hcalls with ⟨_, hx, hafter⟩ | ⟨_, hx, _⟩
      · cases hx
        refine ⟨⟨rule, mem, accepts, converts, rfl⟩, ?_⟩
        rintro _ ⟨rfl⟩
        exact ⟨_, _, hafter⟩
      · cases hx
  | @concede rule mem accepts converts expenseId answer refused discarded =>
      rcases split_three hcalls with ⟨_, hx, hafter⟩ | ⟨_, hx, _⟩ | ⟨_, hx, _⟩
      · cases hx
        refine ⟨⟨rule, mem, accepts, converts, rfl⟩, ?_⟩
        rintro _ ⟨rfl⟩
        exact ⟨_, _, hafter⟩
      · cases hx
      · cases hx

theorem at_write {id : String} {expected status : Status} {update : StatusUpdate}
    {answer : Except Failure Bool} (h : Ending now t rules ending result)
    (hcalls : ending = before ++ ⟨.compareAndSet id expected status update, answer⟩ :: after) :
    (id = t.id ∧ expected = .unmatched) ∧
      ((status = .matched ∧ (∃ invoiceId,
          before = [⟨.findByNumber t.tenantId t.descriptionOrEmpty, .ok (some invoiceId)⟩] ∧
            update = matchUpdate invoiceId) ∧ after = []) ∨
        (status = .converted ∧ ∃ draft expenseId,
          before = [⟨.create draft, .ok expenseId⟩] ∧ update = conversionUpdate draft expenseId ∧
            ((answer = .ok true ∧ after = []) ∨
              (answer ≠ .ok true ∧ ∃ discarded, after = [⟨.discard expenseId, discarded⟩])))) := by
  cases h with
  | leave => simp at hcalls
  | lookUpFailed =>
      rcases split_one hcalls with ⟨_, hx, _⟩
      cases hx
  | link credit named invoiceId =>
      rcases split_two hcalls with ⟨_, hx, _⟩ | ⟨hbefore, hx, hafter⟩
      · cases hx
      · cases hx
        exact ⟨⟨rfl, rfl⟩, .inl ⟨rfl, ⟨invoiceId, hbefore, rfl⟩, hafter⟩⟩
  | creationFailed =>
      rcases split_one hcalls with ⟨_, hx, _⟩
      cases hx
  | convert mem accepts converts expenseId =>
      rcases split_two hcalls with ⟨_, hx, _⟩ | ⟨hbefore, hx, hafter⟩
      · cases hx
      · cases hx
        exact ⟨⟨rfl, rfl⟩, .inr ⟨rfl, _, expenseId, hbefore, rfl, .inl ⟨rfl, hafter⟩⟩⟩
  | concede mem accepts converts expenseId answer refused discarded =>
      rcases split_three hcalls with ⟨_, hx, _⟩ | ⟨hbefore, hx, hafter⟩ | ⟨_, hx, _⟩
      · cases hx
      · cases hx
        exact ⟨⟨rfl, rfl⟩,
          .inr ⟨rfl, _, expenseId, hbefore, rfl, .inr ⟨refused, discarded, hafter⟩⟩⟩
      · cases hx

theorem at_discard {expenseId : String} {discarded : Except Failure Unit}
    (h : Ending now t rules ending result)
    (hcalls : ending = before ++ ⟨.discard expenseId, discarded⟩ :: after) :
    after = [] ∧ ∃ draft answer,
      before = [⟨.create draft, .ok expenseId⟩, ⟨.compareAndSet t.id .unmatched .converted
        (conversionUpdate draft expenseId), answer⟩] ∧
      answer ≠ .ok true ∧ result = .error (refusal t answer) := by
  cases h with
  | leave => simp at hcalls
  | lookUpFailed =>
      rcases split_one hcalls with ⟨_, hx, _⟩
      cases hx
  | link =>
      rcases split_two hcalls with ⟨_, hx, _⟩ | ⟨_, hx, _⟩ <;> cases hx
  | creationFailed =>
      rcases split_one hcalls with ⟨_, hx, _⟩
      cases hx
  | convert =>
      rcases split_two hcalls with ⟨_, hx, _⟩ | ⟨_, hx, _⟩ <;> cases hx
  | concede mem accepts converts createdId answer refused =>
      rcases split_three hcalls with ⟨_, hx, _⟩ | ⟨_, hx, _⟩ | ⟨hbefore, hx, hafter⟩
      · cases hx
      · cases hx
      · cases hx
        exact ⟨hafter, _, answer, hbefore, refused, rfl⟩

theorem not_reopened (h : Ending now t rules ending result) :
    ∀ x ∈ ending, x.request.call ≠ .findApplicable ∧ x.request.call ≠ .getTransaction := by
  cases h <;> simp [Request.call]

theorem count_le_one (h : Ending now t rules ending result) {call : Call}
    (hcall : call = .create ∨ call = .compareAndSet) :
    ending.countP (·.request.call = call) ≤ 1 := by
  rcases hcall with rfl | rfl <;> cases h <;> simp [Request.call]

end Ending

/-!
## The protocol
-/

/-- What may be asked of a host by a reconciliation of `t` that comes to `result`, and in which
order. -/
structure Protocol (t : Transaction) (history : List Exchange)
    (result : Except Failure Transaction) : Prop where
  /-- The rules are asked for first, and once. -/
  opens : ∃ offered rest, history = ⟨.findApplicable t.tenantId t.direction, offered⟩ :: rest ∧
    ∀ x ∈ rest, x.request.call ≠ .findApplicable ∧ x.request.call ≠ .getTransaction
  /-- An invoice is looked for only by the description of a credit, taken as it is. -/
  looks : ∀ tenantId number found,
    (⟨.findByNumber tenantId number, found⟩ : Exchange) ∈ history →
      t.direction = .credit ∧ t.description = some number ∧ number ≠ "" ∧ tenantId = t.tenantId
  creates_once : history.countP (·.request.call = .create) ≤ 1
  writes_once : history.countP (·.request.call = .compareAndSet) ≤ 1
  /-- A write is to the transaction itself, and expects it to be unmatched. -/
  writes : ∀ id expected status update answer,
    (⟨.compareAndSet id expected status update, answer⟩ : Exchange) ∈ history →
      id = t.id ∧ expected = .unmatched ∧ (status = .matched ∨ status = .converted)
  /-- An expense is created only by a converting rule among those that were offered. -/
  creates : ∀ before draft created after,
    history = before ++ ⟨.create draft, created⟩ :: after → ∃ offered rule,
      (⟨.findApplicable t.tenantId t.direction, .ok offered⟩ : Exchange) ∈ before ∧
        rule ∈ offered ∧ rule.autoConvert = true ∧ rule.tenantId = t.tenantId ∧
          rule.appliesTo = t.direction ∧ rule.accepts t = true ∧ draft = .ofConversion t rule
  /-- A new expense is linked at once. -/
  links : ∀ before draft expenseId after,
    history = before ++ ⟨.create draft, .ok expenseId⟩ :: after → ∃ answer rest,
      after = ⟨.compareAndSet t.id .unmatched .converted
        ⟨some expenseId, none, draft.categoryId⟩, answer⟩ :: rest
  /-- A conversion is written only right after its expense was created. -/
  converts : ∀ before id expected update answer after,
    history = before ++ ⟨.compareAndSet id expected .converted update, answer⟩ :: after →
      ∃ earlier draft expenseId, before = earlier ++ [⟨.create draft, .ok expenseId⟩] ∧
        update = ⟨some expenseId, none, draft.categoryId⟩
  /-- A match is written only right after its invoice was found, and never beside an expense. -/
  assigns : ∀ before id expected update answer after,
    history = before ++ ⟨.compareAndSet id expected .matched update, answer⟩ :: after →
      (∀ x ∈ history, x.request.call ≠ .create) ∧ ∃ earlier tenantId number invoiceId,
        before = earlier ++ [⟨.findByNumber tenantId number, .ok (some invoiceId)⟩] ∧
          update = ⟨none, some invoiceId, none⟩
  /-- An expense is discarded only as the last thing, right after the conversion that was to link
  it was refused; what the host says to it does not matter. -/
  discards : ∀ before expenseId discarded after,
    history = before ++ ⟨.discard expenseId, discarded⟩ :: after →
      after = [] ∧ ∃ earlier draft update answer,
        before = earlier ++ [⟨.create draft, .ok expenseId⟩,
          ⟨.compareAndSet t.id .unmatched .converted update, answer⟩] ∧
        answer ≠ .ok true ∧ result = .error (refusal t answer)
  /-- After a conversion nothing is left to do, unless it was refused. -/
  concedes : ∀ before id expected update answer after,
    history = before ++ ⟨.compareAndSet id expected .converted update, answer⟩ :: after →
      (answer = .ok true → after = []) ∧
      (answer ≠ .ok true → ∃ earlier draft expenseId discarded,
        before = earlier ++ [⟨.create draft, .ok expenseId⟩] ∧
          after = [⟨.discard expenseId, discarded⟩])

def openingCalls (t : Transaction) (offered : List Rule) (misses : Nat) : List Exchange :=
  ⟨.findApplicable t.tenantId t.direction, .ok offered⟩ :: List.replicate misses (missedLookUp t)

theorem call_of_mem_openingCalls {offered : List Rule} {misses : Nat} {x : Exchange}
    (h : x ∈ openingCalls t offered misses) :
    x.request.call = .findApplicable ∨ x.request.call = .findByNumber := by
  rcases List.mem_cons.mp h with rfl | hmiss
  · exact .inl rfl
  · rw [(List.mem_replicate.mp hmiss).2]
    exact .inr rfl

theorem countP_openingCalls {offered : List Rule} {misses : Nat} {call : Call}
    (hcall : call = .create ∨ call = .compareAndSet) :
    (openingCalls t offered misses).countP (·.request.call = call) = 0 := by
  rw [List.countP_eq_zero]
  intro x hx
  rcases call_of_mem_openingCalls hx with h | h <;> rcases hcall with rfl | rfl <;> simp [h]

theorem exists_within {offered : List Rule} {misses : Nat} {x : Exchange}
    (hcall : x.request.call ≠ .findApplicable ∧ x.request.call ≠ .findByNumber)
    (h : openingCalls t offered misses ++ ending = before ++ x :: after) :
    ∃ within, before = openingCalls t offered misses ++ within ∧
      ending = within ++ x :: after := by
  rcases List.append_eq_append_iff.mp h with ⟨within, hbefore, hending⟩ | ⟨rest, hopening, hrest⟩
  · exact ⟨within, hbefore, hending⟩
  · cases rest with
    | nil => exact ⟨[], by simpa using hopening.symm, by simpa using hrest.symm⟩
    | cons y rest =>
        injection hrest with hhead _
        have hmem : x ∈ openingCalls t offered misses := by
          rw [hopening, hhead]
          simp
        rcases call_of_mem_openingCalls hmem with hfirst | hmiss
        · exact absurd hfirst hcall.1
        · exact absurd hmiss hcall.2

theorem description_of_ne {number : String} (hnumber : number = t.descriptionOrEmpty)
    (hne : t.descriptionOrEmpty ≠ "") : t.description = some number ∧ number ≠ "" := by
  cases hdescription : t.description with
  | none => simp [Transaction.descriptionOrEmpty, hdescription] at hne
  | some text => simp_all [Transaction.descriptionOrEmpty]

theorem lookUp_of_mem {offered : List Rule} {misses : Nat} {tenantId number : String}
    {found : Except Failure (Option String)} (hending : Ending now t rules ending result)
    (hmisses : 0 < misses → t.direction = .credit ∧ t.descriptionOrEmpty ≠ "")
    (h : (⟨.findByNumber tenantId number, found⟩ : Exchange) ∈
      openingCalls t offered misses ++ ending) :
    (t.direction = .credit ∧ t.descriptionOrEmpty ≠ "") ∧
      tenantId = t.tenantId ∧ number = t.descriptionOrEmpty := by
  rcases List.mem_append.mp h with hopening | hending'
  · rcases List.mem_cons.mp hopening with hfirst | hmiss
    · simp at hfirst
    · have hmiss := List.mem_replicate.mp hmiss
      have hlook : (tenantId = t.tenantId ∧ number = t.descriptionOrEmpty) ∧
          found = .ok none := by simpa [missedLookUp] using hmiss.2
      exact ⟨hmisses (Nat.pos_of_ne_zero hmiss.1), hlook.1⟩
  · rcases List.append_of_mem hending' with ⟨before, after, hcalls⟩
    exact hending.at_lookUp hcalls

theorem protocol_of_refused (e : Failure) :
    Protocol t [⟨.findApplicable t.tenantId t.direction, .error e⟩] (.error e) where
  opens := ⟨.error e, [], rfl, by simp⟩
  looks := by simp
  creates_once := by simp [Request.call]
  writes_once := by simp [Request.call]
  writes := by simp
  creates := by simp [List.cons_eq_append_iff]
  links := by simp [List.cons_eq_append_iff]
  converts := by simp [List.cons_eq_append_iff]
  assigns := by simp [List.cons_eq_append_iff]
  discards := by simp [List.cons_eq_append_iff]
  concedes := by simp [List.cons_eq_append_iff]

theorem protocol_of_ending {offered : List Rule} {misses : Nat}
    (hending : Ending now t (Rule.applicable t.tenantId t.direction offered) ending result)
    (hmisses : 0 < misses → t.direction = .credit ∧ t.descriptionOrEmpty ≠ "") :
    Protocol t (openingCalls t offered misses ++ ending) result where
  opens := by
    refine ⟨.ok offered, _, rfl, ?_⟩
    intro x hx
    rcases List.mem_append.mp hx with hmiss | hx
    · rw [(List.mem_replicate.mp hmiss).2]
      simp [missedLookUp, Request.call]
    · exact hending.not_reopened x hx
  looks := by
    intro tenantId number found hmem
    rcases lookUp_of_mem hending hmisses hmem with ⟨⟨hcredit, hne⟩, htenant, hnumber⟩
    have hdescription := description_of_ne hnumber hne
    exact ⟨hcredit, hdescription.1, hdescription.2, htenant⟩
  creates_once := by
    rw [List.countP_append, countP_openingCalls (.inl rfl), Nat.zero_add]
    exact hending.count_le_one (.inl rfl)
  writes_once := by
    rw [List.countP_append, countP_openingCalls (.inr rfl), Nat.zero_add]
    exact hending.count_le_one (.inr rfl)
  writes := by
    intro id expected status update answer hmem
    rcases List.append_of_mem hmem with ⟨before, after, hcalls⟩
    rcases exists_within (by simp [Request.call]) hcalls with ⟨within, _, hwithin⟩
    rcases hending.at_write hwithin with ⟨⟨hid, hexpected⟩, hmatch | hconvert⟩
    · exact ⟨hid, hexpected, .inl hmatch.1⟩
    · exact ⟨hid, hexpected, .inr hconvert.1⟩
  creates := by
    intro before draft created after hcalls
    rcases exists_within (by simp [Request.call]) hcalls with ⟨within, hbefore, hwithin⟩
    rcases (hending.at_create hwithin).1 with ⟨rule, hmem, haccepts, hconverts, hdraft⟩
    rcases Rule.mem_applicable.mp hmem with ⟨hoffered, hcovers⟩
    rcases Rule.covers_iff.mp hcovers with ⟨htenant, hdirection⟩
    refine ⟨offered, rule, ?_, hoffered, hconverts, htenant, hdirection, haccepts, hdraft⟩
    simp [hbefore, openingCalls]
  links := by
    intro before draft expenseId after hcalls
    rcases exists_within (by simp [Request.call]) hcalls with ⟨within, _, hwithin⟩
    exact (hending.at_create hwithin).2 expenseId rfl
  converts := by
    intro before id expected update answer after hcalls
    rcases exists_within (by simp [Request.call]) hcalls with ⟨within, hbefore, hwithin⟩
    rcases (hending.at_write hwithin).2 with hmatch | ⟨_, draft, expenseId, hcreated, hupdate, _⟩
    · cases hmatch.1
    · exact ⟨openingCalls t offered misses, draft, expenseId, by rw [hbefore, hcreated], hupdate⟩
  assigns := by
    intro before id expected update answer after hcalls
    rcases exists_within (by simp [Request.call]) hcalls with ⟨within, hbefore, hwithin⟩
    rcases (hending.at_write hwithin).2 with ⟨_, ⟨invoiceId, hfound, hupdate⟩, hafter⟩ | hconvert
    · refine ⟨?_, openingCalls t offered misses, _, _, invoiceId, by rw [hbefore, hfound], hupdate⟩
      intro x hx
      rcases List.mem_append.mp hx with hopening | hx
      · rcases call_of_mem_openingCalls hopening with h | h <;> simp [h]
      · rw [hwithin, hfound, hafter] at hx
        rcases List.mem_append.mp hx with hx | hx <;> rw [List.mem_singleton.mp hx] <;>
          simp [Request.call]
    · cases hconvert.1
  discards := by
    intro before expenseId discarded after hcalls
    rcases exists_within (by simp [Request.call]) hcalls with ⟨within, hbefore, hwithin⟩
    rcases hending.at_discard hwithin with ⟨hafter, draft, answer, hlinked, hrefused, hresult⟩
    exact ⟨hafter, openingCalls t offered misses, draft, _, answer, by rw [hbefore, hlinked],
      hrefused, hresult⟩
  concedes := by
    intro before id expected update answer after hcalls
    rcases exists_within (by simp [Request.call]) hcalls with ⟨within, hbefore, hwithin⟩
    rcases (hending.at_write hwithin).2 with
      hmatch | ⟨_, draft, expenseId, hcreated, _, ⟨hok, hafter⟩ | ⟨hrefused, discarded, hafter⟩⟩
    · cases hmatch.1
    · exact ⟨fun _ => hafter, fun hnot => absurd hok hnot⟩
    · exact ⟨fun hok => absurd hok hrefused, fun _ => ⟨openingCalls t offered misses, draft,
        expenseId, discarded, by rw [hbefore, hcreated], hafter⟩⟩

/-- Whatever a host answers, from whatever state and however its answers change between calls: a
final transaction is returned as it is without a call, and the calls for any other one follow the
protocol. -/
theorem reconcile_follows_protocol (answering : Run.Answering σ) (s : σ) (settings : Settings)
    (now : Timestamp) (t : Transaction) :
    let played := (reconcile settings now t).play answering s
    (t.status.isTerminal = true → played = ⟨.ok t, s, []⟩) ∧
      (t.status.isTerminal = false → Protocol t played.history played.result) := by
  intro played
  constructor
  · intro hterminal
    show (reconcile settings now t).play answering s = _
    rw [reconcile_of_terminal hterminal]
    rfl
  · intro hopen
    show Protocol t ((reconcile settings now t).play answering s).history
      ((reconcile settings now t).play answering s).result
    rw [reconcile_of_unmatched (Status.isTerminal_eq_false_iff.mp hopen)]
    simp only [Run.play]
    generalize answering _ s = answered
    rcases answered with ⟨answer, s'⟩
    cases answer with
    | error e => exact protocol_of_refused e
    | ok offered =>
        have hsearches := searches_search settings now t
          (fun rule (h : rule ∈ Rule.applicable t.tenantId t.direction offered) => h)
        rcases exists_ending answering hsearches s' with
          ⟨misses, ending, hending, hmisses, hhistory⟩
        rw [hhistory]
        exact protocol_of_ending hending hmisses

end Reconciliation
end BankFeed
