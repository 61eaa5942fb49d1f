import FaxRelay.Session

/-!
# Pairs of legs

The two legs of an established call name the call and each other, and the one
that came first keeps the bridge between their engines (`Bridged`). A list of
legs is paired when it is a sequence of such pairs, no two of them for the same
call (`Paired`).

Everything that is needed of such a list follows from one fact: around any leg
in it, the list splits into its pair and the legs of other calls, which are
paired among themselves (`Paired.split`).
-/

set_option autoImplicit false

namespace FaxRelay

open FaxRelay.Media FaxRelay.Pool FaxRelay.Signal

/-- A leg of an established call, with everything that it needs. -/
structure Session.Established (session : Session) (callId : CallId) (peer : SessionId) : Prop where
  media : session.isControl = false
  names_call : session.callId = some callId
  names_peer : session.peer = some peer
  stage_eq : session.stage = .progress
  active : session.bridgeActive = true
  owns : session.ownsId = true
  has_port : session.port.isSome = true
  has_socket : session.socket.isSome = true
  has_engine : session.engine.isSome = true
  aimed : session.role = .gateway → session.remote.isSome = true

theorem Session.Established.isOpen {session : Session} {callId : CallId} {peer : SessionId}
    (established : session.Established callId peer) : session.stage ≠ .complete := by
  rw [established.stage_eq]
  exact Stage.noConfusion

/-- The two legs of an established call: the inbound one, which is a gateway leg and keeps the
bridge between their engines, and the outbound one. -/
structure Bridged (callId : CallId) (inbound outbound : Session) : Prop where
  inbound_leg : inbound.Established callId outbound.id
  outbound_leg : outbound.Established callId inbound.id
  inbound_role : inbound.role = .gateway
  inbound_direction : inbound.direction = .inbound
  outbound_direction : outbound.direction = .outbound
  engines : ∃ engine engine' progress, inbound.engine = some engine ∧
    outbound.engine = some engine' ∧ inbound.bridge = some ⟨engine, engine', progress⟩
  outbound_bridge : outbound.bridge = none

/-- Legs that form a sequence of pairs, each for a call of its own. -/
inductive Paired : List Session → Prop where
  | nil : Paired []
  | cons {callId : CallId} {inbound outbound : Session} {rest : List Session}
      (bridged : Bridged callId inbound outbound)
      (fresh : ∀ leg ∈ rest, leg.callId ≠ some callId) (paired : Paired rest) :
      Paired (inbound :: outbound :: rest)

namespace Bridged

variable {callId : CallId} {inbound outbound : Session}

theorem of_mem (bridged : Bridged callId inbound outbound) {leg : Session}
    (member : leg ∈ [inbound, outbound]) : leg.callId = some callId := by
  simp only [List.mem_cons, List.not_mem_nil, or_false] at member
  rcases member with rfl | rfl
  · exact bridged.inbound_leg.names_call
  · exact bridged.outbound_leg.names_call

end Bridged

namespace Paired

variable {legs : List Session}

/-- The pair of a call that is not there yet may be appended. -/
theorem append (paired : Paired legs) {callId : CallId} {inbound outbound : Session}
    (bridged : Bridged callId inbound outbound)
    (fresh : ∀ leg ∈ legs, leg.callId ≠ some callId) : Paired (legs ++ [inbound, outbound]) := by
  induction paired with
  | nil => exact .cons bridged (fun _ member => by cases member) .nil
  | @cons other first second rest bridged' fresh' paired ih =>
    have differs : other ≠ callId := by
      rintro rfl
      exact fresh first (List.mem_cons_self ..) bridged'.inbound_leg.names_call
    refine .cons bridged' (fun leg member => ?_)
      (ih fun leg member => fresh leg (List.mem_cons_of_mem _ (List.mem_cons_of_mem _ member)))
    rcases List.mem_append.mp member with member | member
    · exact fresh' leg member
    · rw [bridged.of_mem member]
      exact fun same => differs (Option.some.inj same).symm

/-- **Around any of its legs, a paired list splits** into the pair of that leg and the legs of other
calls, which are paired among themselves. -/
theorem split (paired : Paired legs) {leg : Session} (member : leg ∈ legs) :
    ∃ callId before inbound outbound after,
      legs = before ++ inbound :: outbound :: after ∧ Bridged callId inbound outbound ∧
      (leg = inbound ∨ leg = outbound) ∧ Paired (before ++ after) ∧
      ∀ other ∈ before ++ after, other.callId ≠ some callId := by
  induction paired with
  | nil => cases member
  | @cons callId inbound outbound rest bridged fresh paired ih =>
    rcases List.mem_cons.mp member with rfl | member
    · exact ⟨callId, [], _, _, rest, rfl, bridged, .inl rfl, paired, fresh⟩
    rcases List.mem_cons.mp member with rfl | member
    · exact ⟨callId, [], _, _, rest, rfl, bridged, .inr rfl, paired, fresh⟩
    obtain ⟨other, before, first, second, after, rfl, bridged', place, others, fresh'⟩ := ih member
    have firstDiffers : some other ≠ some callId := by
      rw [← bridged'.inbound_leg.names_call]
      exact fresh first (List.mem_append_right _ (List.mem_cons_self ..))
    have still : ∀ leg ∈ before ++ after, leg.callId ≠ some callId := by
      intro leg member
      refine fresh leg ?_
      rcases List.mem_append.mp member with member | member
      · exact List.mem_append_left _ member
      · exact List.mem_append_right _ (List.mem_cons_of_mem _ (List.mem_cons_of_mem _ member))
    refine ⟨other, inbound :: outbound :: before, first, second, after, rfl, bridged', place,
      .cons bridged still others, fun leg member => ?_⟩
    rcases List.mem_append.mp member with member | member
    · rcases List.mem_cons.mp member with rfl | member
      · rw [bridged.inbound_leg.names_call]
        exact firstDiffers.symm
      rcases List.mem_cons.mp member with rfl | member
      · rw [bridged.outbound_leg.names_call]
        exact firstDiffers.symm
      · exact fresh' leg (List.mem_append_left _ member)
    · exact fresh' leg (List.mem_append_right _ member)

/-- Every leg of a paired list has its partner beside it, and all others belong to other calls. -/
theorem partner (paired : Paired legs) {leg : Session} (member : leg ∈ legs) :
    ∃ callId partner before after, leg.Established callId partner.id ∧
      partner.Established callId leg.id ∧
      (∀ other ∈ before ++ after, other.callId ≠ some callId) ∧
      (legs = before ++ leg :: partner :: after ∨ legs = before ++ partner :: leg :: after) := by
  obtain ⟨callId, before, inbound, outbound, after, same, bridged, place, _, others⟩ :=
    paired.split member
  rcases place with rfl | rfl
  · exact ⟨callId, outbound, before, after, bridged.inbound_leg, bridged.outbound_leg, others,
      .inl same⟩
  · exact ⟨callId, inbound, before, after, bridged.outbound_leg, bridged.inbound_leg, others,
      .inr same⟩

/-- Every leg of a paired list belongs to an established call. -/
theorem established (paired : Paired legs) {leg : Session} (member : leg ∈ legs) :
    ∃ callId peer, leg.Established callId peer := by
  obtain ⟨callId, _, _, _, _, _, bridged, place, _⟩ := paired.split member
  rcases place with rfl | rfl
  · exact ⟨callId, _, bridged.inbound_leg⟩
  · exact ⟨callId, _, bridged.outbound_leg⟩

/-- Without the legs of one call, a paired list is paired. -/
theorem filter (paired : Paired legs) (callId : CallId) :
    Paired (legs.filter fun leg => leg.callId ≠ some callId) := by
  induction paired with
  | nil => exact .nil
  | @cons other inbound outbound rest bridged fresh paired ih =>
    have first := bridged.inbound_leg.names_call
    have second := bridged.outbound_leg.names_call
    by_cases same : other = callId
    · subst same
      rw [List.filter_cons_of_neg (by simp [first]), List.filter_cons_of_neg (by simp [second])]
      exact ih
    · rw [List.filter_cons_of_pos (by simp [first, same]),
        List.filter_cons_of_pos (by simp [second, same])]
      exact .cons bridged (fun leg member => fresh leg (List.mem_filter.mp member).1) ih

end Paired

/-- Without the legs of a call, a list in which they stand together falls into what is before them
and what is behind them. -/
theorem filter_pair {callId : CallId} {first second : Session}
    (firstNames : first.callId = some callId) (secondNames : second.callId = some callId)
    {before after : List Session} (others : ∀ leg ∈ before ++ after, leg.callId ≠ some callId) :
    (before ++ first :: second :: after).filter (fun leg => leg.callId ≠ some callId) =
      before ++ after := by
  have kept := List.filter_eq_self.mpr fun leg member => decide_eq_true (others leg member)
  rw [List.filter_append] at kept
  rw [List.filter_append, List.filter_cons_of_neg (by simp [firstNames]),
    List.filter_cons_of_neg (by simp [secondNames])]
  exact kept

end FaxRelay
