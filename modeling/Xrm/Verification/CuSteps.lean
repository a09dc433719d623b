import Xrm.Verification.CuLedger

/-! # The steps of a compute unit

Every change the daemon makes to a single CU keeps its bookkeeping.
-/

namespace Xrm

open FixedTable

/-- The daemon may get what the library sends. -/
theorem CuProperty.Sent.received {prop : CuProperty} (h : prop.Sent) : prop.Received :=
  ⟨h.1, h.2.2.trans (by decide)⟩

theorem CuPropertyV2.Sent.received {propV2 : CuPropertyV2} (h : propV2.Sent) : propV2.Received :=
  ⟨h.1, h.2.2.trans (by decide)⟩

/-! ## Changes of one channel -/

section Channels

variable {chans pre post : List ChannelData} {chan : ChannelData} {prop : CuProperty}
  {svc i p : Nat}

theorem ChannelData.Free.drawnFrom (h : chan.Free) (q : Nat) : drawnFrom q chan = 0 := by
  rw [Xrm.drawnFrom, h.load, ite_self]

theorem ChannelData.drawnFrom_occupy (q : Nat) (chan : ChannelData) :
    Xrm.drawnFrom q (chan.occupy prop svc) =
      if prop.poolId = q then prop.requestLoadUnified else 0 := rfl

theorem moves_occupy (svc : Nat) (hi : i < chans.length) (hfree : chans[i].Free) :
    Moves prop.poolId prop.requestLoadUnified chans
      (chans.modify i (ChannelData.occupy prop svc)) := by
  constructor
  · rw [sumBy_modify _ _ _ _ hi, hfree.load]
    simp [ChannelData.occupy]
  · intro q hq
    rw [sumBy_modify _ _ _ _ hi, hfree.drawnFrom, ChannelData.drawnFrom_occupy, sub_zero]

theorem moves_clear :
    Moves chan.poolId (-chan.channelLoadUnified) (pre ++ chan :: post)
      (pre ++ chan.clear :: post) := by
  constructor
  · simp only [sumBy_append, sumBy_cons, ChannelData.clear_load]
    omega
  · intro q hq
    simp only [sumBy_append, sumBy_cons, (ChannelData.free_clear chan).drawnFrom q]
    rw [drawnFrom]
    split <;> omega

theorem ChannelData.occupy_live (hc : prop.clientId ≠ 0) (hpos : 0 < prop.requestLoadUnified)
    (hsvc : svc ≠ 0) (chan : ChannelData) : (chan.occupy prop svc).Live :=
  ⟨hc, hpos, hsvc⟩

theorem ChannelTable.occupy {n : Int} (h : ChannelTable chans n) (hi : i < chans.length)
    (hfree : chans[i].Free) (hc : prop.clientId ≠ 0) (hpos : 0 < prop.requestLoadUnified)
    (hsvc : svc ≠ 0) :
    ChannelTable (chans.modify i (ChannelData.occupy prop svc)) (n + 1) := by
  refine ⟨by simp [h.length], ?_, ?_⟩
  · exact forall_mem_modify h.proper fun chan _ => .inr (ChannelData.occupy_live hc hpos hsvc chan)
  · rw [sumBy_modify _ _ _ _ hi, h.inUse]
    simp [inService, hfree.clientId, ChannelData.occupy, hc]

theorem ChannelTable.clear {n : Int} (h : ChannelTable (pre ++ chan :: post) n)
    (hc : chan.clientId ≠ 0) : ChannelTable (pre ++ chan.clear :: post) (n - 1) := by
  refine ⟨?_, ?_, ?_⟩
  · simpa using h.length
  · intro x hx
    rcases List.mem_append.mp hx with hx | hx
    · exact h.proper x (List.mem_append_left _ hx)
    · rcases List.mem_cons.mp hx with rfl | hx
      · exact ChannelData.proper_clear chan
      · exact h.proper x (List.mem_append_right _ (List.mem_cons_of_mem _ hx))
  · rw [h.inUse]
    simp only [sumBy_append, sumBy_cons, inService, hc, ChannelData.clear_clientId, ne_eq,
      not_true_eq_false, not_false_eq_true, if_true, if_false]
    omega

theorem ClientTable.occupy {cu : CuData} (svc : Nat) (hc : ChannelTable chans cu.numChanInuse)
    (h : ClientTable chans cu.clients cu.numClient) (hi : i < chans.length)
    (hfree : chans[i].Free) (hn : cu.numChanInuse < maxKernelChannels)
    (hclient : prop.clientId ≠ 0) :
    ClientTable (chans.modify i (ChannelData.occupy prop svc))
      (cu.addClientToCu prop.clientId).clients (cu.addClientToCu prop.clientId).numClient := by
  have hlt : cu.numClient < maxKernelChannels := by
    have := h.numClient_le
    have := hc.inUse
    omega
  refine h.add hlt hclient fun d hd => ?_
  have hperm := modify_perm chans i (ChannelData.occupy prop svc) hi
  have hperm' := perm_cons_eraseIdx chans i hi
  simp only [hperm.mem_iff, hperm'.mem_iff, List.mem_cons, exists_eq_or_imp, hfree.clientId,
    hd.symm, false_or]
  exact or_congr_left eq_comm

end Channels

/-! ## Allocation -/

namespace CuData

variable {cu cu' : CuData} {prop : CuProperty} {svc chanId : Nat}

/-- What an allocation on a CU has found and done. -/
structure Allocated (cu cu' : CuData) (prop : CuProperty) (svc : Nat) (idx : Option Nat)
    (chanId : Nat) : Prop where
  pos : 0 < prop.requestLoadUnified
  admits : cu.Admits prop idx
  room : cu.numChanInuse < maxKernelChannels
  free : ∃ hi : chanId < cu.channels.length, cu.channels[chanId].Free
  eq : cu' = cu.assignChannel prop svc idx chanId

theorem allocated_of_allocChan {policyInfo : Nat} {preCu : Option CuData}
    (hcu : cu.Consistent)
    (h : cu.allocChanClientFromCu prop svc policyInfo preCu = .allocated cu' chanId) :
    ∃ idx, cu.Allocated cu' prop svc idx chanId := by
  obtain ⟨hpos, idx, hadm, htake⟩ := allocChan_spec h
  obtain ⟨hlt, hfree, heq⟩ := takeChannel_spec hcu.channels htake
  exact ⟨idx, hpos, hadm, hlt, hfree, heq⟩

theorem Consistent.books_alloc {idx : Option Nat} (h : cu.Consistent)
    (hpos : 0 < prop.requestLoadUnified) (hmax : prop.requestLoadUnified ≤ maxSafeLoad)
    (hadm : cu.Admits prop idx) : cu.Books prop.poolId prop.requestLoadUnified idx := by
  rw [maxSafeLoad, maxChanLoad] at hmax
  cases idx with
  | none =>
      obtain ⟨hp, hle⟩ := hadm
      have h0 := h.total_nonneg
      have h1 := h.ledger.total_le
      rw [maxChanLoad] at h1
      have hfit := i32_eq (x := cu.totalUsedLoadUnified + prop.requestLoadUnified)
        (by omega) (by omega)
      refine ⟨fun _ => ⟨?_, hfit, by omega⟩, by simp⟩
      intro r hr
      rw [hp]
      exact (h.slots.active r hr).poolId
  | some i =>
      obtain ⟨hfind, -, hle⟩ := hadm
      obtain ⟨-, hi, hpool⟩ := isReservePoolUsingCu_eq_some hfind
      have hmem := List.getElem_mem hi
      have h0 := h.ledger.used_ge h.channels.proper hmem (h.slots.active _ hmem)
      have h1 := h.ledger.used_le h.channels.proper hmem
      rw [h.slot_eq hi] at hle
      rw [maxChanLoad] at h0 h1
      have hfit := i32_eq (x := cu.slots[i].reserveUsedLoadUnified + prop.requestLoadUnified)
        (by omega) (by omega)
      refine ⟨by simp, ?_⟩
      intro j hj
      rw [Option.some.injEq] at hj
      subst hj
      exact ⟨hi, hpool, hfit, by omega⟩

theorem booked_assignChannel (cu : CuData) (prop : CuProperty) (svc chanId : Nat)
    (idx : Option Nat) :
    Booked cu (cu.assignChannel prop svc idx chanId) prop.requestLoadUnified idx := by
  refine ⟨by simp, by simp, ?_, ?_⟩
  · rintro rfl
    exact assignChannel_none cu prop svc chanId
  · rintro i rfl
    exact assignChannel_some cu prop svc chanId i

/-- An allocation keeps the bookkeeping in order. -/
theorem Allocated.consistent {idx : Option Nat} (h : cu.Allocated cu' prop svc idx chanId)
    (hcu : cu.Consistent) (hs : prop.Received) (hsvc : svc ≠ 0) : cu'.Consistent := by
  obtain ⟨hi, hfree⟩ := h.free
  have hchan := hcu.channels.occupy hi hfree hs.1 h.pos hsvc
  have hclients := ClientTable.occupy svc hcu.channels hcu.clients hi hfree h.room hs.1
  rw [h.eq]
  have haccounts := hcu.accounts.move (moves_occupy svc hi hfree)
    (hcu.books_alloc h.pos hs.2 h.admits) (cu.booked_assignChannel prop svc chanId idx)
    (by simpa using hchan)
  rw [← assignChannel_channels cu prop svc idx chanId] at haccounts
  refine haccounts.consistent ?_
  rw [(assignChannel_clients cu prop svc idx chanId).1,
    (assignChannel_clients cu prop svc idx chanId).2, assignChannel_channels]
  exact hclients

theorem assignChannel_toCuInfo (cu : CuData) (prop : CuProperty) (svc : Nat) (idx : Option Nat)
    (chanId : Nat) : (cu.assignChannel prop svc idx chanId).toCuInfo = cu.toCuInfo := by
  have hadd : ∀ (cu : CuData) (c : Nat), (cu.addClientToCu c).toCuInfo = cu.toCuInfo := by
    intro cu c
    obtain ⟨_, _, h⟩ := cu.addClientToCu_frame c
    rw [h]
  cases idx with
  | none => exact hadd _ _
  | some i => exact hadd _ _

theorem Allocated.kin {idx : Option Nat} (h : cu.Allocated cu' prop svc idx chanId) :
    cu.Kin cu' := by
  rw [h.eq]
  refine ⟨assignChannel_toCuInfo cu prop svc idx chanId, ?_⟩
  rw [assignChannel_channels, map_modify_eq (f := ChannelData.occupy prop svc) fun _ => rfl]

theorem Allocated.exact {idx : Option Nat} (h : cu.Allocated cu' prop svc idx chanId)
    (hcu : cu.Consistent) (hx : cu.Exact) (hs : prop.Received) : cu'.Exact := by
  obtain ⟨hi, hfree⟩ := h.free
  have hexact : cu.ExactOn cu.channels := hx
  rw [h.eq, Exact, assignChannel_channels]
  exact hexact.follow (hcu.accounts.slots_move (moves_occupy svc hi hfree)
    (hcu.books_alloc h.pos hs.2 h.admits) (cu.booked_assignChannel prop svc chanId idx))

end CuData

end Xrm
