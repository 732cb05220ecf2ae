import Mathlib.Data.List.Nodup
import Mathlib.Data.List.Perm.Subperm
import QueryGen.Config.Check
import QueryGen.Method.Basic
import QueryGen.Results

/-!
# Names of generated methods

A generated method has a receiver, parameters and named results, all in one scope.

- `freshName_eq`: a fresh name has the fewest underscores with which no other name is taken.
- `MethodContext.names_of_checkParams`: checked parameters have names of their own, none of them the
  receiver's, `table` or one that generated code declares.
- `MethodContext.apart_of_classify`: there is one error among the results at most, and one other
  result.
- `QueryMethod.names_of_build`: the parameters and the results of a checked method have names of
  their own. A fresh name avoids the parameters alone, so it can be that of the receiver
  (`QueryMethod.TakesReceiver`).
-/

namespace QueryGen

/-! ## Fresh names -/

theorem toList_underscored (base : String) (n : Nat) :
    (underscored base n).toList = base.toList ++ List.replicate n '_' := by
  simp [underscored]

theorem underscored_injective (base : String) : Function.Injective (underscored base) := by
  intro m n h
  have hlength := congrArg (fun s => s.toList.length) h
  simpa [toList_underscored] using hlength

/-- One of more names than are taken is free. -/
theorem exists_underscored_notMem (base : String) (taken : List String) :
    ∃ n ∈ List.range (taken.length + 1), underscored base n ∉ taken := by
  by_contra hall
  have hsub : (List.range (taken.length + 1)).map (underscored base) ⊆ taken := by
    intro name hname
    obtain ⟨n, hn, rfl⟩ := List.mem_map.1 hname
    by_contra hfree
    exact hall ⟨n, hn, hfree⟩
  have hnodup : ((List.range (taken.length + 1)).map (underscored base)).Nodup :=
    List.nodup_range.map (underscored_injective base)
  have hle := (List.subperm_of_subset hnodup hsub).length_le
  rw [List.length_map, List.length_range] at hle
  exact absurd hle (Nat.not_succ_le_self _)

/-- A fresh name is not taken, and all names with fewer underscores are. -/
theorem freshName_eq (base : String) (taken : List String) :
    ∃ n, freshName base taken = underscored base n ∧ underscored base n ∉ taken ∧
      ∀ k < n, underscored base k ∈ taken := by
  obtain ⟨i, hi, hfree⟩ := exists_underscored_notMem base taken
  have hsome : ((List.range (taken.length + 1)).find? fun k => underscored base k ∉ taken).isSome :=
    List.find?_isSome.2 ⟨i, hi, by simpa using hfree⟩
  obtain ⟨n, hn⟩ := Option.isSome_iff_exists.1 hsome
  obtain ⟨hfirst, -, hbefore⟩ := List.find?_range_eq_some.1 hn
  refine ⟨n, ?_, by simpa using hfirst, fun k hk => by simpa using hbefore k hk⟩
  rw [freshName, List.find?_map]
  exact congrArg (fun found => (found.map (underscored base)).getD base) hn

/-! ## Names of results -/

/-- How a name begins that generated code declares. -/
theorem Reserved.take_of_isReserved {name : String} (h : isReserved name = true) :
    name.toList.take 2 ∈ [['g', 'e'], ['p', 'a'], ['e', 'x'], ['w', 'h'], ['s', 'e'],
      ['f', 'o']] := by
  have hfamily : ∀ family : String, inFamily family name = true → 2 ≤ family.toList.length →
      name.toList.take 2 = family.toList.take 2 := by
    intro family hname hlength
    unfold inFamily at hname
    split at hname
    · next digits hdigits =>
      rw [← List.isPrefixOf?_eq_some_iff_append_eq.1 hdigits, List.take_append_of_le_length hlength]
    · cases hname
  simp only [isReserved, Bool.or_eq_true, beq_iff_eq, List.any_cons, List.any_nil,
    Bool.or_false] at h
  rcases h with ((rfl | rfl) | rfl) | hname | hname | hname
  · decide
  · decide
  · decide
  · rw [hfamily _ hname (by decide)]
    decide
  · rw [hfamily _ hname (by decide)]
    decide
  · rw [hfamily _ hname (by decide)]
    decide

namespace ResultRole

def isError : ResultRole → Bool
  | error => true
  | _ => false

theorem baseName_eq (role : ResultRole) :
    (role.isError = true ∧ role.baseName = "err") ∨
      role.isError = false ∧ (role.baseName = "result" ∨ role.baseName = "rowsAffected") := by
  cases role <;> simp [isError, baseName]

theorem take_underscored_baseName (role : ResultRole) (n : Nat) :
    (underscored role.baseName n).toList.take 2 ∈ [['r', 'e'], ['r', 'o'], ['e', 'r']] := by
  rw [toList_underscored]
  rcases role.baseName_eq with ⟨-, he⟩ | ⟨-, he | he⟩ <;>
  · rw [he, List.take_append_of_le_length (by decide)]
    decide

/-- Generated code declares no result among its own names. -/
theorem isReserved_underscored_baseName (role : ResultRole) (n : Nat) :
    Reserved.isReserved (underscored role.baseName n) = false ∧
      underscored role.baseName n ≠ Reserved.table := by
  have htake := role.take_underscored_baseName n
  constructor
  · rw [Bool.eq_false_iff]
    intro h
    have hreserved := Reserved.take_of_isReserved h
    simp only [List.mem_cons, List.not_mem_nil, or_false] at htake hreserved
    rcases htake with he | he | he <;> simp [he] at hreserved
  · intro h
    rw [h] at htake
    revert htake
    decide

/-- An error is called by another name than a result that is none. -/
theorem underscored_baseName_ne {role other : ResultRole} (h : role.isError ≠ other.isError)
    (m n : Nat) : underscored role.baseName m ≠ underscored other.baseName n := by
  have hhead : ∀ (r : ResultRole) k, (underscored r.baseName k).toList.head? =
      some (if r.isError then 'e' else 'r') := by
    intro r k
    rw [toList_underscored]
    rcases r.baseName_eq with ⟨hr, he⟩ | ⟨hr, he | he⟩ <;>
    · rw [hr, he]
      rfl
  intro he
  have hletter := congrArg (·.toList.head?) he
  simp only [hhead, Option.some.injEq] at hletter
  refine h ?_
  cases hr : role.isError <;> cases ho : other.isError <;> simp [hr, ho] at hletter ⊢

end ResultRole

namespace MethodContext

variable {ctx : MethodContext}

/-! ## Checked names -/

/-- Checked parameters have names of their own that no other part of a method has. -/
theorem names_of_checkParams {index : Nat} {seen : List String} {params checked : List Param}
    (h : ctx.checkParams index seen params = .ok checked) :
    (checked.map (·.name)).Nodup ∧
      ∀ p ∈ checked, p.name ∉ seen ∧ ctx.isReserved p.name = false := by
  induction params generalizing index seen checked with
  | nil =>
    cases h
    simp
  | cons p rest ih =>
    rw [checkParams] at h
    split_ifs at h with hnamed hreserved hseen
    obtain ⟨type, -, h⟩ := bind_eq_ok_iff.1 h
    obtain ⟨others, ho, h⟩ := bind_eq_ok_iff.1 h
    cases h
    obtain ⟨hnodup, hothers⟩ := ih ho
    refine ⟨List.nodup_cons.2 ⟨fun hmem => ?_, hnodup⟩,
      List.forall_mem_cons.2 ⟨⟨hseen, by simpa using hreserved⟩, fun q hq => ?_⟩⟩
    · obtain ⟨q, hq, he⟩ := List.mem_map.1 hmem
      exact (hothers q hq).1 (by rw [he]; exact List.mem_cons_self)
    · exact ⟨fun hmem => (hothers q hq).1 (List.mem_cons_of_mem _ hmem), (hothers q hq).2⟩

theorem isError_of_dataResult {type resolved : GoType} {role : ResultRole}
    (h : ctx.dataResult type = .ok (resolved, role)) : role.isError = false := by
  unfold dataResult at h
  split at h
  · cases h
    rfl
  · obtain ⟨found, -, h⟩ := bind_eq_ok_iff.1 h
    split at h
    · cases h
    · cases h
      rfl

/-- No two results are errors, and no two of them are none. -/
theorem apart_of_classify {data : Option String} {hasError : Bool} {declared : List Param}
    {classified : List (GoType × ResultRole)}
    (h : ctx.classify data hasError declared = .ok classified) :
    classified.Pairwise (fun a b => a.2.isError ≠ b.2.isError) ∧
      ∀ r ∈ classified, (hasError = true → r.2.isError = false) ∧
        (data.isSome = true → r.2.isError = true) := by
  induction declared generalizing data hasError classified with
  | nil =>
    cases h
    simp
  | cons r rest ih =>
    rw [classify] at h
    split at h
    · split at h
      · cases h
      · next hnone =>
        obtain ⟨others, ho, h⟩ := bind_eq_ok_iff.1 h
        cases h
        obtain ⟨hpairwise, hothers⟩ := ih ho
        refine ⟨List.pairwise_cons.2 ⟨fun q hq => ?_, hpairwise⟩,
          List.forall_mem_cons.2 ⟨⟨fun he => absurd he hnone, fun _ => rfl⟩, fun q hq => ?_⟩⟩
        · rw [(hothers q hq).1 rfl]
          exact Bool.noConfusion
        · exact ⟨fun he => absurd he hnone, (hothers q hq).2⟩
    · obtain ⟨⟨type, role⟩, hd, h⟩ := bind_eq_ok_iff.1 h
      have hrole := isError_of_dataResult hd
      cases data with
      | some first => cases h
      | none =>
        obtain ⟨others, ho, h⟩ := bind_eq_ok_iff.1 h
        cases h
        obtain ⟨hpairwise, hothers⟩ := ih ho
        refine ⟨List.pairwise_cons.2 ⟨fun q hq => ?_, hpairwise⟩,
          List.forall_mem_cons.2 ⟨⟨fun _ => hrole, fun he => by cases he⟩, fun q hq => ?_⟩⟩
        · rw [(hothers q hq).2 rfl, hrole]
          exact Bool.noConfusion
        · exact ⟨(hothers q hq).1, fun he => by cases he⟩

end MethodContext

namespace QueryMethod

/-- The names that a generated method declares in its signature. -/
def names (receiver : String) (m : QueryMethod) : List String :=
  receiver :: (m.params.map (·.name) ++ m.results.map (·.name))

/-- A result gets the name of the receiver: it is what such a result is called, with underscores,
and all names with fewer of them are parameters. -/
def TakesReceiver (receiver : String) (m : QueryMethod) : Prop :=
  ∃ slot ∈ m.results, ∃ n, receiver = underscored slot.role.baseName n ∧
    ∀ k < n, underscored slot.role.baseName k ∈ m.params.map (·.name)

variable {interface : String} {declared : Method} {ctx : MethodContext} {m : QueryMethod}

/-- The parts of a checked method. -/
theorem parts_of_build (h : build interface declared ctx = .ok m) :
    m.name = declared.name ∧ ctx.checkParams 0 [] declared.params = .ok m.params ∧
      ∃ classified, ctx.classify none false declared.results = .ok classified ∧
        m.results = classified.map fun (type, role) =>
          ⟨freshName role.baseName (m.params.map (·.name)), type, role⟩ := by
  unfold build at h
  obtain ⟨doc, -, h⟩ := bind_eq_ok_iff.1 h
  obtain ⟨params, hp, h⟩ := bind_eq_ok_iff.1 h
  obtain ⟨results, hr, h⟩ := bind_eq_ok_iff.1 h
  obtain ⟨kind, -, h⟩ := bind_eq_ok_iff.1 h
  obtain ⟨classified, hc, hr⟩ := bind_eq_ok_iff.1 hr
  cases hr
  cases h
  exact ⟨rfl, hp, classified, hc, rfl⟩

/-- The results of a checked method have fresh names. -/
theorem name_of_mem_results (h : build interface declared ctx = .ok m) {slot : ResultSlot}
    (hs : slot ∈ m.results) :
    slot.name = freshName slot.role.baseName (m.params.map (·.name)) := by
  obtain ⟨-, -, classified, -, hresults⟩ := parts_of_build h
  rw [hresults] at hs
  obtain ⟨⟨type, role⟩, -, rfl⟩ := List.mem_map.1 hs
  rfl

/-- The results have names of their own, and no parameter has one of them. -/
theorem nodup_names_of_build (h : build interface declared ctx = .ok m) :
    (m.params.map (·.name) ++ m.results.map (·.name)).Nodup := by
  obtain ⟨-, hparams, classified, hclassified, hresults⟩ := parts_of_build h
  refine List.nodup_append.2 ⟨(MethodContext.names_of_checkParams hparams).1, ?results, ?apart⟩
  case results =>
    rw [hresults, List.map_map, List.Nodup, List.pairwise_map]
    refine (MethodContext.apart_of_classify hclassified).1.imp fun {a b} hab => ?_
    obtain ⟨i, hi, -⟩ := freshName_eq a.2.baseName (m.params.map (·.name))
    obtain ⟨k, hk, -⟩ := freshName_eq b.2.baseName (m.params.map (·.name))
    simpa [hi, hk] using ResultRole.underscored_baseName_ne hab i k
  case apart =>
    rintro name hname _ hresult rfl
    obtain ⟨slot, hs, rfl⟩ := List.mem_map.1 hresult
    rw [name_of_mem_results h hs] at hname
    obtain ⟨n, hn, hfree, -⟩ := freshName_eq slot.role.baseName (m.params.map (·.name))
    exact hfree (hn ▸ hname)

/-- Where a result has the name of the receiver. -/
theorem takesReceiver_iff (h : build interface declared ctx = .ok m) (receiver : String)
    (hr : receiver ∉ m.params.map (·.name)) :
    m.TakesReceiver receiver ↔ receiver ∈ m.results.map (·.name) := by
  rw [List.mem_map]
  refine exists_congr fun slot => and_congr_right fun hs => ?_
  obtain ⟨n, hn, hfree, hbefore⟩ := freshName_eq slot.role.baseName (m.params.map (·.name))
  rw [name_of_mem_results h hs, hn]
  constructor
  · rintro ⟨k, rfl, hk⟩
    rcases Nat.lt_trichotomy k n with hlt | rfl | hlt
    · exact absurd (hbefore k hlt) hr
    · rfl
    · exact absurd (hk n hlt) hfree
  · rintro rfl
    exact ⟨n, rfl, hbefore⟩

theorem receiver_of_check {c : Config} (h : c.check = .ok ()) :
    c.receiver ≠ Reserved.table ∧ Reserved.isReserved c.receiver = false := by
  by_contra hnot
  have hreserved : c.receiver = Reserved.table ∨ Reserved.isReserved c.receiver = true := by
    rw [not_and_or, not_not, Bool.not_eq_false] at hnot
    exact hnot
  unfold Config.check at h
  simp only [if_pos hreserved] at h
  split at h <;> cases h

/-- The names of a method that was checked for the receiver of a checked configuration are
distinct, exactly unless a result takes the name of the receiver. None of them is `table` or a name
that generated code declares. -/
theorem names_of_build {c : Config} (hc : c.check = .ok ())
    (h : build interface declared { ctx with receiver := c.receiver } = .ok m) :
    ((m.names c.receiver).Nodup ↔ ¬m.TakesReceiver c.receiver) ∧
      ∀ name ∈ m.names c.receiver, Reserved.isReserved name = false ∧ name ≠ Reserved.table := by
  have hparams : ∀ p ∈ m.params, p.name ≠ Reserved.table ∧ p.name ≠ c.receiver ∧
      Reserved.isReserved p.name = false := by
    intro p hp
    have hname := ((MethodContext.names_of_checkParams (parts_of_build h).2.1).2 p hp).2
    simpa [MethodContext.isReserved, and_assoc] using hname
  have hreceiver : c.receiver ∉ m.params.map (·.name) := by
    intro hmem
    obtain ⟨p, hp, he⟩ := List.mem_map.1 hmem
    exact (hparams p hp).2.1 he
  constructor
  · rw [names, List.nodup_cons, List.mem_append, not_or, takesReceiver_iff h c.receiver hreceiver]
    exact ⟨fun hn => hn.1.2, fun hr => ⟨⟨hreceiver, hr⟩, nodup_names_of_build h⟩⟩
  · refine List.forall_mem_cons.2 ⟨(receiver_of_check hc).symm, List.forall_mem_append.2 ⟨?_, ?_⟩⟩
    · exact List.forall_mem_map.2 fun p hp => ⟨(hparams p hp).2.2, (hparams p hp).1⟩
    · refine List.forall_mem_map.2 fun slot hs => ?_
      obtain ⟨n, hn, -⟩ := freshName_eq slot.role.baseName (m.params.map (·.name))
      rw [name_of_mem_results h hs, hn]
      exact slot.role.isReserved_underscored_baseName n

end QueryMethod

namespace Touch

def config (receiver : String) : Config where
  modelImport := "example.com/app/model"
  receiver := receiver
  catalog := { schemaFile := some "schema.yaml" }

def context (receiver : String) : MethodContext where
  model := .named (some "model") "User"
  receiver := receiver
  structs := .empty

/-- A method that returns an error. -/
def declared (params : List Param) : Method where
  name := "Touch"
  doc := "update @@table set seen = 1"
  params := params
  results := [⟨"", .simple "error", false⟩]

/-- The method with the given name for its result. -/
def checked (params : List Param) (result : String) : QueryMethod where
  interface := "Querier"
  name := "Touch"
  doc := ⟨.template, "update @@table set seen = 1"⟩
  exec := .exec
  params := params
  results := [⟨result, .simple "error", .error⟩]

def named (name : String) : Param := ⟨name, .simple "int", false⟩

theorem names_touch :
    (config "u").check = .ok () ∧
      QueryMethod.build "Querier" (declared [named "err"]) (context "u") =
        .ok (checked [named "err"] "err_") ∧
      (((checked [named "err"] "err_").names "u").Nodup ↔
        ¬(checked [named "err"] "err_").TakesReceiver "u") ∧
      (checked [named "err"] "err_").names "u" = ["u", "err", "err_"] := by
  have hc : (config "u").check = .ok () := by decide +kernel
  have hb : QueryMethod.build "Querier" (declared [named "err"]) (context "u") =
      .ok (checked [named "err"] "err_") := by decide +kernel
  exact ⟨hc, hb, (@QueryMethod.names_of_build _ _ (context "u") _ (config "u") hc hb).1, rfl⟩

/-- An error takes the name of a receiver that is called `err`, or `err_` next to a parameter
`err`. -/
theorem receiver_taken :
    ((config "err").check = .ok () ∧
      QueryMethod.build "Querier" (declared []) (context "err") = .ok (checked [] "err") ∧
      ¬((checked [] "err").names "err").Nodup) ∧
    (config "err_").check = .ok () ∧
      QueryMethod.build "Querier" (declared [named "err"]) (context "err_") =
        .ok (checked [named "err"] "err_") ∧
      ¬((checked [named "err"] "err_").names "err_").Nodup := by
  refine ⟨⟨?_, ?_, ?_⟩, ?_, ?_, ?_⟩ <;> decide +kernel

end Touch

end QueryGen
