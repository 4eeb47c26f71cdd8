import ModuleGateway.Structures.SettingsFile

/-! # The topics of a gateway

Every vehicle has its own topics on the broker, made of its company and its name. The settings
are correct only with names that have no separator and no wildcard, so that what is published for one
vehicle reaches no other one.
-/
namespace ModuleGateway.ExternalClient
open Structures

/-! ## Topic filters -/

/-- The levels of a topic. -/
def levels (topic : String) : List (List Char) := topic.toList.splitOn '/'

/-- The topics that a subscription gets, as a broker compares them. -/
def filterMatches : List (List Char) → List (List Char) → Bool
  | [['#']],_ => true
  | ['+'] :: filter,_ :: topic => filterMatches filter topic
  | level :: filter,level' :: topic => level = level' && filterMatches filter topic
  | [],[] => true
  | _,_ => false

theorem levels_injective {topic topic' : String} (h : levels topic = levels topic') : topic = topic' := by
  have hjoined := congrArg (List.intercalate ['/']) h
  simp only [levels, List.intercalate_splitOn] at hjoined
  exact String.toList_injective hjoined

/-- Without wildcards a filter is a topic. -/
theorem filterMatches_iff {filter topic : List (List Char)} (h : ∀ level ∈ filter, '#' ∉ level ∧ '+' ∉ level) :
    filterMatches filter topic = true ↔ topic = filter := by
  fun_induction filterMatches filter topic with
  | case1 topic => exact absurd List.mem_cons_self (h ['#'] List.mem_cons_self).1
  | case2 filter level topic ih => exact absurd List.mem_cons_self (h ['+'] List.mem_cons_self).2
  | case3 level filter level' topic hhash hplus ih =>
    have hrest := ih fun l hl => h l (List.mem_cons_of_mem level hl)
    simp only [Bool.and_eq_true, decide_eq_true_eq, hrest, List.cons.injEq]
    exact and_congr_left fun _ => eq_comm
  | case4 => simp
  | case5 filter topic _ _ hcons hnil =>
    refine iff_of_false Bool.false_ne_true ?_
    rintro rfl
    cases topic with
    | nil => exact hnil rfl rfl
    | cons level topic => exact hcons level topic level topic rfl rfl

/-! ## The properties of an endpoint -/

namespace Constants

abbrev SSL := "ssl"
abbrev CA_FILE := "ca-file"
abbrev CLIENT_CERT := "client-cert"
abbrev CLIENT_KEY := "client-key"

end Constants

structure SslOptions where
  trust_store : String
  private_key : String
  key_store : String

/-- What `setProperties` leaves in a `MqttCommunication`. -/
structure MqttProperties where
  publishTopic_ : String
  subscribeTopic_ : String
  serverDisconnectTopic_ : String
  clientId_ : String
  serverAddress_ : String
  ssl : Option SslOptions

namespace MqttProperties

def createClientId (company vehicleName : String) : String := company ++ "/" ++ vehicleName

def createPublishTopic (company vehicleName : String) : String :=
  createClientId company vehicleName ++ "/module_gateway"

def createSubscribeTopic (company vehicleName : String) : String :=
  createClientId company vehicleName ++ "/external_server"

def createServerDisconnectTopic (company vehicleName : String) : String :=
  createClientId company vehicleName ++ "/external_server_disconnect"

/-- Without all three files SSL is not used. -/
def sslOptions (settings_ : ExternalConnectionSettings) : Option SslOptions :=
  if settings_.protocolSettings.lookup Constants.SSL = some "true" then do
    let trust_store ← settings_.protocolSettings.lookup Constants.CA_FILE
    let key_store ← settings_.protocolSettings.lookup Constants.CLIENT_CERT
    let private_key ← settings_.protocolSettings.lookup Constants.CLIENT_KEY
    return ⟨trust_store,private_key,key_store⟩
  else none

def setProperties (settings_ : ExternalConnectionSettings) (company vehicleName : String) : MqttProperties where
  publishTopic_ := createPublishTopic company vehicleName
  subscribeTopic_ := createSubscribeTopic company vehicleName
  serverDisconnectTopic_ := createServerDisconnectTopic company vehicleName
  clientId_ := createClientId company vehicleName
  serverAddress_ :=
    (if (sslOptions settings_).isSome then "ssl://" else "") ++ settings_.serverIp ++ ":" ++
      toString settings_.port.toNat
  ssl := sslOptions settings_

/-- Whether the client of these properties, with its two subscriptions, gets a message. -/
def subscribed (p : MqttProperties) (topic : String) : Bool :=
  filterMatches (levels p.subscribeTopic_) (levels topic) ||
    filterMatches (levels p.serverDisconnectTopic_) (levels topic)

/-! ## Topics of correct settings -/

variable {exists_ : String → Bool} {settings_ settings_' : Settings} {company vehicleName : String}

theorem isName_of_areSettingsCorrect (h : areSettingsCorrect exists_ settings_ = true) :
    isName settings_.company = true ∧ isName settings_.vehicleName = true := by
  unfold areSettingsCorrect settingsErrors at h
  simp only [List.isEmpty_iff, List.append_eq_nil_iff] at h
  obtain ⟨⟨⟨-,hcompany⟩,hvehicle⟩,-⟩ := h
  constructor <;> by_contra hname <;> simp_all

/-- A name is one level, and no wildcard. -/
theorem not_mem_of_isName {name : String} (h : isName name = true) :
    '/' ∉ name.toList ∧ '#' ∉ name.toList ∧ '+' ∉ name.toList := by
  simp only [isName, Bool.and_eq_true, List.all_eq_true] at h
  refine ⟨?_,?_,?_⟩ <;> intro hmem <;> exact absurd (h.2 _ hmem) (by decide)

/-- The levels of a topic of a vehicle. -/
theorem levels_topic (hcompany : isName company = true) (hvehicle : isName vehicleName = true) {last : String}
    (hlast : '/' ∉ last.toList) :
    levels (createClientId company vehicleName ++ ("/" ++ last)) = [company.toList,vehicleName.toList,last.toList] := by
  have htopic : (createClientId company vehicleName ++ ("/" ++ last)).toList =
      List.intercalate ['/'] [company.toList,vehicleName.toList,last.toList] := by
    simp [createClientId, List.intercalate]
  rw [levels, htopic]
  refine List.splitOn_intercalate '/' ?_ (List.cons_ne_nil _ _)
  simp [not_mem_of_isName hcompany, not_mem_of_isName hvehicle, hlast]

theorem levels_clientId (hcompany : isName company = true) (hvehicle : isName vehicleName = true) :
    levels (createClientId company vehicleName) = [company.toList,vehicleName.toList] := by
  have hid : (createClientId company vehicleName).toList =
      List.intercalate ['/'] [company.toList,vehicleName.toList] := by
    simp [createClientId, List.intercalate]
  rw [levels, hid]
  refine List.splitOn_intercalate '/' ?_ (List.cons_ne_nil _ _)
  simp [not_mem_of_isName hcompany, not_mem_of_isName hvehicle]

/-- With correct settings a client gets what is published on its two topics and nothing else. -/
theorem subscribed_iff (hcompany : isName company = true) (hvehicle : isName vehicleName = true)
    (e : ExternalConnectionSettings) (topic : String) :
    let p := setProperties e company vehicleName
    p.subscribed topic = true ↔ topic = p.subscribeTopic_ ∨ topic = p.serverDisconnectTopic_ := by
  have hfilter : ∀ last : String, '/' ∉ last.toList → '#' ∉ last.toList ∧ '+' ∉ last.toList →
      (filterMatches (levels (createClientId company vehicleName ++ ("/" ++ last))) (levels topic) = true ↔
        topic = createClientId company vehicleName ++ ("/" ++ last)) := by
    intro last hlast hwild
    have hlevels := levels_topic hcompany hvehicle hlast
    rw [filterMatches_iff]
    · exact ⟨levels_injective,fun h => by rw [h]⟩
    · rw [hlevels]
      simp [not_mem_of_isName hcompany, not_mem_of_isName hvehicle, hwild]
  simp only [subscribed, Bool.or_eq_true]
  exact or_congr (hfilter "external_server" (by decide) (by decide))
    (hfilter "external_server_disconnect" (by decide) (by decide))

/-- Two gateways with correct settings share the topics of the server and the client id when they are for the same
vehicle, and otherwise none of them; what a gateway publishes comes to no gateway. -/
theorem topics_separate {exists_' : String → Bool} (h : areSettingsCorrect exists_ settings_ = true)
    (h' : areSettingsCorrect exists_' settings_' = true) (e e' : ExternalConnectionSettings) :
    let p := setProperties e settings_.company settings_.vehicleName
    let p' := setProperties e' settings_'.company settings_'.vehicleName
    let same := settings_.company = settings_'.company ∧ settings_.vehicleName = settings_'.vehicleName
    (∀ topic, p.subscribed topic = true ↔ topic = p.subscribeTopic_ ∨ topic = p.serverDisconnectTopic_) ∧
      (p'.subscribed p.subscribeTopic_ = true ↔ same) ∧ (p'.subscribed p.serverDisconnectTopic_ = true ↔ same) ∧
      p'.subscribed p.publishTopic_ = false ∧ p.subscribeTopic_ ≠ p'.serverDisconnectTopic_ ∧
      (p.clientId_ = p'.clientId_ ↔ same) := by
  obtain ⟨hcompany,hvehicle⟩ := isName_of_areSettingsCorrect h
  obtain ⟨hcompany',hvehicle'⟩ := isName_of_areSettingsCorrect h'
  have htopics : ∀ last last' : String, '/' ∉ last.toList → '/' ∉ last'.toList →
      (createClientId settings_.company settings_.vehicleName ++ ("/" ++ last) =
          createClientId settings_'.company settings_'.vehicleName ++ ("/" ++ last') ↔
        settings_.company = settings_'.company ∧ settings_.vehicleName = settings_'.vehicleName ∧ last = last') := by
    intro last last' hlast hlast'
    constructor
    · intro heq
      have hlevels := congrArg levels heq
      rw [levels_topic hcompany hvehicle hlast, levels_topic hcompany' hvehicle' hlast'] at hlevels
      simpa [String.toList_inj] using hlevels
    · rintro ⟨hc,hv,rfl⟩
      rw [hc, hv]
  have hserver : '/' ∉ "external_server".toList := by decide
  have hdisconnect : '/' ∉ "external_server_disconnect".toList := by decide
  have hgateway : '/' ∉ "module_gateway".toList := by decide
  have hget : ∀ topic, (setProperties e' settings_'.company settings_'.vehicleName).subscribed topic = true ↔
      topic = createSubscribeTopic settings_'.company settings_'.vehicleName ∨
        topic = createServerDisconnectTopic settings_'.company settings_'.vehicleName :=
    subscribed_iff hcompany' hvehicle' e'
  refine ⟨subscribed_iff hcompany hvehicle e,?_,?_,?_,?_,?_⟩
  · rw [hget]
    exact (or_congr (htopics _ _ hserver hserver) (htopics _ _ hserver hdisconnect)).trans (by simp)
  · rw [hget]
    exact (or_congr (htopics _ _ hdisconnect hserver) (htopics _ _ hdisconnect hdisconnect)).trans (by simp)
  · rw [Bool.eq_false_iff, Ne, hget]
    intro hor
    exact absurd ((or_congr (htopics _ _ hgateway hserver) (htopics _ _ hgateway hdisconnect)).mp hor) (by simp)
  · intro heq
    exact absurd ((htopics _ _ hserver hdisconnect).mp heq) (by simp)
  · constructor
    · intro heq
      have hlevels := congrArg levels heq
      simp only [setProperties] at hlevels
      rw [levels_clientId hcompany hvehicle, levels_clientId hcompany' hvehicle'] at hlevels
      simpa [String.toList_inj] using hlevels
    · rintro ⟨hc,hv⟩
      simp only [setProperties, hc, hv]

/-- Settings for a vehicle of a company, with one module. -/
def vehicleSettings (company vehicleName : String) : Settings :=
  ⟨1636,company,vehicleName,AList.singleton 1 "libmodule.so","",[],⟨⟨true,.Debug⟩,⟨false,.Debug,""⟩⟩⟩

def mqttEndpoint : ExternalConnectionSettings := ⟨.MQTT,∅,"127.0.0.1",1883,[1]⟩

/-- Two cars of one company. -/
theorem topics_separate_cars :
    (setProperties mqttEndpoint "company" "car_2").subscribed
        (setProperties mqttEndpoint "company" "car_1").subscribeTopic_ = false ∧
      (setProperties mqttEndpoint "company" "car_1").clientId_ ≠
        (setProperties mqttEndpoint "company" "car_2").clientId_ := by
  have h : areSettingsCorrect (fun _ => true) (vehicleSettings "company" "car_1") = true := by decide +kernel
  have h' : areSettingsCorrect (fun _ => true) (vehicleSettings "company" "car_2") = true := by decide +kernel
  obtain ⟨-,hserver,-,-,-,hid⟩ := topics_separate h h' mqttEndpoint mqttEndpoint
  refine ⟨Bool.eq_false_iff.mpr fun hgets => ?_,fun hsame => ?_⟩
  · exact absurd (hserver.mp hgets).2 (by decide)
  · exact absurd (hid.mp hsame).2 (by decide)

end MqttProperties

end ModuleGateway.ExternalClient
