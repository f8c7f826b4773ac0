import Mathlib.Data.Option.NAry
import NeutralRouting.Bgp.Attachment
import NeutralRouting.Proofs.GeneratedName
import NeutralRouting.Proofs.Store

/-!
# Changes made for peers

Attaching neighbors changes a configuration in three ways only.  Each of them revises one entry of
one table, so the changes can be made in any order: either all of them are refused together or they
lead to the same configuration.
-/

namespace NeutralRouting

open Std Table

namespace Attempt

variable {σ τ : Type} {attempt : Attempt σ} {changed : σ}

/-- What an attempt leads to, unless it is refused. -/
def result? : Attempt σ → Option σ
  | (changed, .ok ()) => some changed
  | (_, .error _) => none

theorem result?_eq_some_iff : attempt.result? = some changed ↔ attempt = (changed, .ok ()) := by
  rcases attempt with ⟨left, cause | ⟨⟩⟩
  · simp [result?]
  · simp [result?]

theorem result?_within (attempt : Attempt σ) (put : σ → τ) :
    (attempt.within put).result? = attempt.result?.map put := by
  rcases attempt with ⟨left, cause | ⟨⟩⟩ <;> rfl

end Attempt

namespace BgpProcess

variable {process : BgpProcess} {peer : BgpPeer}

theorem addPeer_of_address {key : Address} (identity : peer.id = .address key) :
    (process.addPeer peer).result? =
      (revise? process.activePeers key (addNew peer)).map
        ({ process with activePeers := · }) := by
  cases known : process.activePeers[key]? <;>
    simp [addPeer, peer?, identity, known, revise?, addNew, Attempt.result?]

theorem addPeer_of_interface {key : String} (identity : peer.id = .interface key) :
    (process.addPeer peer).result? =
      (revise? process.interfacePeers key (addNew peer)).map
        ({ process with interfacePeers := · }) := by
  cases known : process.interfacePeers[key]? <;>
    simp [addPeer, peer?, identity, known, revise?, addNew, Attempt.result?]

/-- Peers can be added to a process in either order. -/
theorem addPeer_comm (process : BgpProcess) (first second : BgpPeer) :
    (process.addPeer first).result?.bind (fun added => (added.addPeer second).result?) =
      (process.addPeer second).result?.bind (fun added => (added.addPeer first).result?) := by
  have commute := commute_addNew first second
  cases own : first.id with
  | address key =>
      cases other : second.id with
      | address another =>
          have both := congrArg (Option.map ({ process with activePeers := · }))
            (revise?_comm (fun _ : key = another => commute)
              process.activePeers)
          simp only [addPeer_of_address own, addPeer_of_address other, Option.bind_map]
          simpa only [Option.map_bind, Function.comp_def] using both
      | interface another =>
          simp only [addPeer_of_address own, addPeer_of_interface other, Option.bind_map]
          exact Option.map₂_swap (fun active interfaces =>
            { process with activePeers := active, interfacePeers := interfaces })
            (revise? process.activePeers key (addNew first))
            (revise? process.interfacePeers another (addNew second))
  | interface key =>
      cases other : second.id with
      | address another =>
          simp only [addPeer_of_interface own, addPeer_of_address other, Option.bind_map]
          exact Option.map₂_swap (fun interfaces active =>
            { process with activePeers := active, interfacePeers := interfaces })
            (revise? process.interfacePeers key (addNew first))
            (revise? process.activePeers another (addNew second))
      | interface another =>
          have both := congrArg (Option.map ({ process with interfacePeers := · }))
            (revise?_comm (fun _ : key = another => commute)
              process.interfacePeers)
          simp only [addPeer_of_interface own, addPeer_of_interface other, Option.bind_map]
          simpa only [Option.map_bind, Function.comp_def] using both

end BgpProcess

namespace Configuration.Shelf

variable {β : Type} (shelf : Shelf β)

/-- Change the entry under a name, unless that is refused. -/
def revise? (configuration : Configuration) (name : String) (change : Option β → Option β) :
    Option Configuration :=
  (Table.revise? (shelf.get configuration) name change).map (shelf.set configuration)

theorem result?_add (configuration : Configuration) (object : β) :
    (shelf.add configuration object).result? =
      shelf.revise? configuration (shelf.name object) (addNew object) := by
  by_cases taken : shelf.name object ∈ shelf.get configuration
  · have known := ExtTreeMap.isSome_getElem?_iff_mem.mpr taken
    rw [shelf.add_of_mem taken, revise?, Table.revise?, addNew, if_pos known]
    rfl
  · have unknown : ¬(shelf.get configuration)[shelf.name object]?.isSome = true :=
      mt ExtTreeMap.isSome_getElem?_iff_mem.mp taken
    rw [shelf.add_of_not_mem taken, revise?, Table.revise?, addNew, if_neg unknown]
    rfl

/-- Revisions of one table of a configuration give the same in either order, if those of one entry
do. -/
theorem revise?_comm {first second : String} {change other : Option β → Option β}
    (commute : first = second → Commute change other) (configuration : Configuration) :
    (shelf.revise? configuration first change).bind (shelf.revise? · second other) =
      (shelf.revise? configuration second other).bind (shelf.revise? · first change) := by
  have both := congrArg (Option.map (shelf.set configuration))
    (Table.revise?_comm commute (shelf.get configuration))
  have again : ∀ table, shelf.set (shelf.set configuration table) = shelf.set configuration :=
    fun table => funext (shelf.set_set configuration table)
  simp only [revise?, Option.bind_map, Function.comp_def, shelf.get_set, again]
  simpa only [Option.map_bind, Function.comp_def] using both

end Configuration.Shelf

/-- A change that is made for a peer. -/
inductive PeerChange where
  /-- The policy for the default route of a peer is registered, unless it is there. -/
  | allowDefaultRoute (vrf peer : String)
  /-- A policy is registered. -/
  | addPolicy (policy : RoutingPolicy)
  /-- The process of a VRF gets a peer. -/
  | addPeer (vrf : String) (peer : BgpPeer)

/-- The process of a VRF gets a peer, unless there is no such process or it has the peer. -/
def attachPeer (peer : BgpPeer) (entry : Option Vrf) : Option Vrf := do
  let vrf ← entry
  let process ← vrf.bgp
  (process.addPeer peer).result?.map fun changed => { vrf with bgp := some changed }

theorem commute_attachPeer (first second : BgpPeer) :
    Commute (attachPeer first) (attachPeer second) := by
  intro entry
  cases entry with
  | none => rfl
  | some vrf =>
      cases running : vrf.bgp with
      | none => simp [attachPeer, running]
      | some process =>
          have both := congrArg (Option.map fun changed => { vrf with bgp := some changed })
            (process.addPeer_comm first second)
          simpa [attachPeer, running, Option.map_bind, Option.bind_map, Function.comp_def]
            using both

namespace PeerChange

open NeutralRouting.Configuration

/-- Make a change, unless it is refused. -/
def make? : PeerChange → Configuration → Option Configuration
  | allowDefaultRoute vrf peer, configuration =>
    policyShelf.revise? configuration (GeneratedName.defaultRoute .v4 vrf peer).text
      (ensure (defaultRoutePolicy vrf peer))
  | addPolicy policy, configuration =>
    policyShelf.revise? configuration policy.name (addNew policy)
  | addPeer vrf peer, configuration => vrfShelf.revise? configuration vrf (attachPeer peer)

variable {configuration : Configuration}

theorem make?_allowDefaultRoute (vrf peer : String) :
    (allowDefaultRoute vrf peer).make? configuration =
      some (configuration.ensurePolicy (defaultRoutePolicy vrf peer)) := by
  rw [make?, Shelf.revise?, revise?_ensure]
  rfl

theorem make?_addPolicy (policy : RoutingPolicy) :
    (addPolicy policy).make? configuration = (configuration.addPolicy policy).result? :=
  (policyShelf.result?_add configuration policy).symm

theorem make?_addPeer (vrf : String) (peer : BgpPeer) :
    (addPeer vrf peer).make? configuration =
      (configuration.updateBgpProcess vrf (·.addPeer peer)).result? := by
  have revised : (addPeer vrf peer).make? configuration =
      (attachPeer peer configuration.vrfs[vrf]?).map fun owner =>
        { configuration with vrfs := configuration.vrfs.insert vrf owner } := by
    rw [make?, Shelf.revise?, Table.revise?, Option.map_map]
    rfl
  rw [revised, updateBgpProcess, updateVrf]
  cases configuration.vrfs[vrf]? with
  | none => rfl
  | some owner =>
      rw [Attempt.result?_within]
      cases running : owner.bgp with
      | none => simp [attachPeer, running, Attempt.result?]
      | some process => simp [attachPeer, running, Attempt.result?_within]

/-- Make changes in order. -/
def makeAll? (changes : List PeerChange) (configuration : Configuration) :
    Option Configuration :=
  changes.foldlM (fun configuration change => change.make? configuration) configuration

/-- The change is not about a policy that has the name of one for a default route without being
shared like those. -/
def KeepsApart : PeerChange → Prop
  | addPolicy policy => ∀ vrf peer, policy.name ≠ (GeneratedName.defaultRoute .v4 vrf peer).text
  | _ => True

theorem make?_comm {first second : PeerChange} (own : first.KeepsApart)
    (other : second.KeepsApart) (configuration : Configuration) :
    (first.make? configuration).bind second.make? =
      (second.make? configuration).bind first.make? := by
  have cross : ∀ (name vrf : String) change reattach,
      (policyShelf.revise? configuration name change).bind (vrfShelf.revise? · vrf reattach) =
        (vrfShelf.revise? configuration vrf reattach).bind
          (policyShelf.revise? · name change) := by
    intro name vrf change reattach
    simp only [Shelf.revise?, Option.bind_map]
    exact Option.map₂_swap (fun policies vrfs =>
      { configuration with policies := policies, vrfs := vrfs })
      (Table.revise? configuration.policies name change)
      (Table.revise? configuration.vrfs vrf reattach)
  cases first with
  | allowDefaultRoute vrf peer =>
      cases second with
      | allowDefaultRoute another_vrf another =>
          refine policyShelf.revise?_comm (fun same => ?_) configuration
          have one : defaultRoutePolicy vrf peer = defaultRoutePolicy another_vrf another := by
            rw [defaultRoutePolicy, same]
            rfl
          rw [one]
          exact commute_ensure _
      | addPolicy policy =>
          exact policyShelf.revise?_comm (fun same => absurd same.symm (other vrf peer))
            configuration
      | addPeer another_vrf another => exact cross _ _ _ _
  | addPolicy policy =>
      cases second with
      | allowDefaultRoute another_vrf another =>
          exact policyShelf.revise?_comm (fun same => absurd same (own another_vrf another))
            configuration
      | addPolicy another =>
          exact policyShelf.revise?_comm (fun _ => commute_addNew policy another) configuration
      | addPeer another_vrf another => exact cross _ _ _ _
  | addPeer vrf peer =>
      cases second with
      | allowDefaultRoute another_vrf another => exact (cross _ _ _ _).symm
      | addPolicy another => exact (cross _ _ _ _).symm
      | addPeer another_vrf another =>
          exact vrfShelf.revise?_comm (fun _ => commute_attachPeer peer another) configuration

/-- Changes lead to the same configuration in every order, or are refused in every order. -/
theorem makeAll?_perm {changes order : List PeerChange} (permuted : changes.Perm order)
    (apart : ∀ change ∈ changes, change.KeepsApart) (configuration : Configuration) :
    makeAll? changes configuration = makeAll? order configuration := by
  induction permuted generalizing configuration with
  | nil => rfl
  | cons change _ ih =>
      rw [makeAll?, makeAll?, List.foldlM_cons, List.foldlM_cons]
      refine congrArg ((change.make? configuration).bind ·) (funext fun changed => ?_)
      exact ih (fun other member => apart other (List.mem_cons_of_mem _ member)) changed
  | swap first second rest =>
      have both := make?_comm (apart second (by simp)) (apart first (by simp)) configuration
      simp only [makeAll?, List.foldlM_cons, Option.bind_eq_bind, ← Option.bind_assoc]
      exact congrArg (Option.bind · _) both
  | trans front _ ih_front ih_back =>
      rw [ih_front apart, ih_back fun change member => apart change (front.mem_iff.mpr member)]

end PeerChange
end NeutralRouting
