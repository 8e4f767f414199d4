import Bayeux.Proofs.Carrier.Errands
/-! What a world does to its server. An action that is no publish of its own, and the pumps after
it, come down to chores, so whatever holds for each chore holds for every step. -/

namespace Bayeux

def Action.isPublish : Action → Bool
  | .publish _ _ => true
  | _ => false

namespace World
variable {σ : Type} {setup : Setup σ} {h : Handlers σ} {world : World σ}

/- Any relation between servers passes from what is done to one of them to the world it stands
in, if the server may stay as it is. -/

section
variable {R : Server σ → Server σ → Prop} {client : Nat}

theorem serverOnWebSocket (refl : ∀ s, R s s)
    {act : WebSocket → Server σ → Answer × WebSocket × Server σ}
    (done : ∀ w, world.client? client = some (.webSocket w) →
      R world.server (act w world.server).2.2) :
    R world.server (world.onWebSocket client act).2.server :=
  onWebSocketKeeps (P := fun next => R world.server next.server) (refl _) done

theorem serverOnInProcess (refl : ∀ s, R s s)
    {act : InProcess → Server σ → Answer × InProcess × Server σ}
    (done : ∀ p, world.client? client = some (.inProcess p) →
      R world.server (act p world.server).2.2) :
    R world.server (world.onInProcess client act).2.server :=
  onInProcessKeeps (P := fun next => R world.server next.server) (refl _) done

theorem serverOnCarrier (refl : ∀ s, R s s)
    {webSocket : WebSocket → Server σ → Answer × WebSocket × Server σ}
    {inProcess : InProcess → Server σ → Answer × InProcess × Server σ}
    (left : ∀ w, R world.server (webSocket w world.server).2.2)
    (right : ∀ p, R world.server (inProcess p world.server).2.2) :
    R world.server (world.onCarrier client webSocket inProcess).2.server :=
  onCarrierKeeps (P := fun next => R world.server next.server) (refl _) (fun w _ => left w)
    fun p _ => right p

theorem serverOnServer (refl : ∀ s, R s s) {act : String → Server σ → Answer × Server σ}
    (done : ∀ id, R world.server (act id world.server).2) :
    R world.server (world.onServer client act).2.server :=
  onServerKeeps (P := fun next => R world.server next.server) (refl _) fun c _ => done c.session

theorem serverExpireAll (refl : ∀ s, R s s) (trans : ∀ {s t u}, R s t → R t u → R s u)
    (closes : ∀ (p : InProcess) (s : Server σ),
      R s (p.close h { s with inProcess := s.inProcess.erase p.session }).2)
    (clients : List Client) (s : Server σ) : R s (expireAll h clients s).2.2 := by
  induction clients generalizing s with
  | nil => exact refl s
  | cons c rest ih =>
    have one : R s (expire h c s).2.2 := by
      cases c with
      | webSocket w => exact refl s
      | inProcess p =>
        unfold expire
        simp only
        split
        · exact closes p s
        · exact refl s
    exact trans one (ih _)

theorem serverSettle (refl : ∀ s, R s s) (trans : ∀ {s t u}, R s t → R t u → R s u)
    (pumps : ∀ (p : InProcess) (s : Server σ),
      R s (p.pump setup.handlers setup.inProcess s).2) (world : World σ) :
    R world.server (world.settle setup).server := by
  obtain ⟨s, clients⟩ := world
  simp only [settle]
  induction clients generalizing s with
  | nil => exact refl s
  | cons c rest ih =>
    cases c with
    | webSocket w => exact ih s
    | inProcess p => exact trans (pumps p s) (ih _)

end

theorem choresOpen (s : Server σ) (transport : String) (isLocal : Bool) (queueSize : Nat) :
    Server.Chores h s (s.openSession transport isLocal queueSize).2 :=
  Server.choresTrans (Server.choresOnce (.placed _ _)) (Server.choresOnce (.added _))

theorem choresExpire (p : InProcess) (s : Server σ) :
    Server.Chores h s (p.close h { s with inProcess := s.inProcess.erase p.session }).2 := by
  have closed := InProcess.servesClose h p { s with inProcess := s.inProcess.erase p.session }
  exact Server.choresErrands
    (Server.errandsTrans (Server.errandsOnce .unlisted) closed.server)

theorem choresSettle (setup : Setup σ) (world : World σ) :
    Server.Chores setup.handlers world.server (world.settle setup).server :=
  serverSettle Server.choresRefl Server.choresTrans
    (InProcess.choresPump setup.handlers setup.inProcess) world

theorem choresAct (setup : Setup σ) (world : World σ) {action : Action}
    (other : action.isPublish = false) :
    Server.Chores setup.handlers world.server (world.act setup action).2.server := by
  have refl := Server.choresRefl (h := setup.handlers)
  cases action with
  | openWebSocket peer =>
    unfold act
    simp only
    split
    · exact choresOpen _ _ _ _
    · exact .refl
  | openInProcess =>
    unfold act
    simp only
    split
    · exact Server.choresTrans (choresOpen _ _ _ _) (Server.choresOnce (.listed _))
    · exact .refl
  | text client content =>
    exact serverOnWebSocket refl fun w _ => Server.choresErrands
      (WebSocket.servesOnText setup.handlers setup.webSocket content w world.server).server
  | inject client m =>
    exact serverOnInProcess refl fun p _ => Server.choresErrands
      (InProcess.servesInject setup.handlers m p world.server).server
  | flush client =>
    exact serverOnWebSocket refl fun w _ => Server.choresTrans
      (Server.choresTakeDeliveries _ w.session)
      (Server.choresErrands
        (WebSocket.servesDeliver setup.handlers setup.webSocket _ w _).server)
  | collect client => exact serverOnInProcess refl fun p _ => .refl
  | send client packets =>
    exact serverOnCarrier refl
      (fun w => Server.choresErrands
        (WebSocket.servesDeliver setup.handlers setup.webSocket packets w world.server).server)
      fun p => Server.choresErrands
        (InProcess.servesSend setup.handlers packets p world.server).server
  | close client =>
    exact serverOnCarrier refl (fun w => .refl) fun p => Server.choresErrands
      (InProcess.servesClose setup.handlers p world.server).server
  | onClose client =>
    exact serverOnWebSocket refl fun w _ => Server.choresErrands
      (WebSocket.servesOnClose setup.handlers w world.server).server
  | closeIfIdle client => exact serverOnWebSocket refl fun w _ => .refl
  | expireIdle =>
    exact serverExpireAll refl Server.choresTrans choresExpire world.clients world.server
  | setIdleTimeout client requested => exact serverOnCarrier refl (fun w => .refl) fun p => .refl
  | setDisconnected client => exact serverOnCarrier refl (fun w => .refl) fun p => .refl
  | dropReader client =>
    exact serverOnCarrier refl (fun w => Server.choresCloseDeliveries _ w.session) fun p => .refl
  | setSink client sink => exact serverOnWebSocket refl fun w _ => .refl
  | deliver client p => exact serverOnServer refl fun id => Server.choresDeliver _ id p
  | publish sender? p => cases other
  | register client => exact serverOnServer refl fun id => Server.choresOnce (.added id)
  | deregister client =>
    exact serverOnServer refl fun id => Server.choresOnce (.errand .removed)
  | subscribe client channel =>
    exact serverOnServer refl fun id => Server.choresOnce (.subscribed id channel)
  | unsubscribe client channel =>
    exact serverOnServer refl fun id => Server.choresOnce (.unsubscribed id channel)
  | advance nanoseconds =>
    have waits : Server.Errand setup.handlers "" world.server _ := .waits nanoseconds
    exact Server.choresOnce (.errand waits)

theorem choresStep (setup : Setup σ) (world : World σ) {action : Action}
    (other : action.isPublish = false) :
    Server.Chores setup.handlers world.server (world.step setup action).2.server :=
  Server.choresTrans (choresAct setup world other) (choresSettle setup _)

end World
end Bayeux
