import Mathlib
import PageSketch.Chat.Exchange
import PageSketch.Chat.Request
import PageSketch.Proofs.Chat.Request

/-!
# What goes over the web and what comes back

A post carries the text of its request, and that text reads back as the request. A final response
has one of three results, told from its status and the bytes that arrive: the status itself when it
does not mean success, the text of the first choice when the bytes are JSON that has one, and an
unexpected response in every other case.
-/

namespace PageSketch.Chat

open Json

/-! ## Sending -/

/-- A post carries the text of its request. -/
theorem body_of_post {endpoint : Endpoint} {request : Request} {url : String} {sent : Post}
    (h : post endpoint request = .ok (url, sent)) : sent.body = request.body := by
  rw [post] at h
  split at h
  · cases h
  · simp only at h
    -- The three refusals come before the post.
    split at h
    · cases h
    · split at h
      · cases h
      · split at h
        · cases h
        · obtain ⟨-, rfl⟩ := Prod.mk.inj (Except.ok.inj h)
          rfl

/-! ## The text of the first choice -/

/-- Whether bytes are JSON with a text as the first choice. An object has under its last `choices` an
array, whose first item has under its last `message` an object, which has the text under its last
`content`; whatever else is there does not count. -/
inductive Offers (bytes : ByteArray) (s : String) : Prop
  | intro {text : String} {members choice fields : List (String × Value)} {others : List Value}
      (bytes_eq : bytes = text.toUTF8) (spells : SpellsValue text.toList (.object members))
      (choices : lastAt? "choices" members = some (.array (.object choice :: others)))
      (message : lastAt? "message" choice = some (.object fields))
      (content : lastAt? "content" fields = some (.string s))

/-- Bytes are the text that is read from them. -/
theorem fromUTF8?_eq_some_iff {bytes : ByteArray} {text : String} :
    String.fromUTF8? bytes = some text ↔ bytes = text.toUTF8 := by
  unfold String.fromUTF8?
  constructor
  · intro h
    split at h
    · rw [← Option.some.inj h]
      rfl
    · cases h
  · rintro rfl
    exact dif_pos text.isValidUTF8

section

variable {value v : Value}

/-- A member of a sorted value is the last member under its key, sorted. -/
theorem member?_sorted_eq_some_iff {key : String} :
    value.sorted.member? key = some v ↔
      ∃ members w, value = .object members ∧ lastAt? key members = some w ∧ w.sorted = v := by
  cases value with
  | object members =>
    simp [Value.sorted, Value.member?, Value.valueAt?_sortedMembers, valueAt?]
  | _ => simp [Value.sorted, Value.member?]

/-- The first item of a sorted value is the first item, sorted. -/
theorem first?_sorted_eq_some_iff :
    value.sorted.first? = some v ↔
      ∃ item others, value = .array (item :: others) ∧ item.sorted = v := by
  cases value with
  | array items =>
    cases items with
    | nil => simp [Value.sorted, Value.sortedItems, Value.first?]
    | cons item others => simp [Value.sorted, Value.sortedItems, Value.first?]
  | _ => simp [Value.sorted, Value.first?]

/-- The text of a sorted value is its text. -/
theorem string?_sorted_eq_some_iff {s : String} :
    value.sorted.string? = some s ↔ value = .string s := by
  cases value <;> simp [Value.sorted, Value.string?]

end

namespace Response

/-- Bytes have the value of the text that they are. -/
theorem value?_eq_some_iff {bytes : ByteArray} {v : Value} :
    value? bytes = some v ↔
      ∃ (text : String) (w : Value),
        bytes = text.toUTF8 ∧ SpellsValue text.toList w ∧ w.sorted = v := by
  constructor
  · intro h
    rw [value?] at h
    split at h
    · cases h
    · rename_i text htext
      split at h
      · rename_i value hvalue
        obtain rfl := Option.some.inj h
        obtain ⟨w, hspells, hsorted⟩ := parse_eq_ok_iff.mp hvalue
        exact ⟨text, w, fromUTF8?_eq_some_iff.mp htext, hspells, hsorted⟩
      · cases h
  · rintro ⟨text, w, hbytes, hspells, hsorted⟩
    rw [value?, fromUTF8?_eq_some_iff.mpr hbytes]
    simp only [parse_eq_ok_iff.mpr ⟨w, hspells, hsorted⟩]

/-- The text of the first choice is found along its path. -/
theorem firstChoice?_sorted_eq_some_iff {w : Value} {s : String} :
    firstChoice? w.sorted = some s ↔
      ∃ members choice fields others, w = .object members ∧
        lastAt? "choices" members = some (.array (.object choice :: others)) ∧
        lastAt? "message" choice = some (.object fields) ∧
        lastAt? "content" fields = some (.string s) := by
  simp only [firstChoice?, Option.bind_eq_some_iff]
  constructor
  · rintro ⟨_, ⟨_, ⟨_, ⟨_, hchoices, hfirst⟩, hmessage⟩, hcontent⟩, hstring⟩
    obtain ⟨members, choices, rfl, hlast, rfl⟩ := member?_sorted_eq_some_iff.mp hchoices
    obtain ⟨first, others, rfl, rfl⟩ := first?_sorted_eq_some_iff.mp hfirst
    obtain ⟨choice, message, rfl, hlast', rfl⟩ := member?_sorted_eq_some_iff.mp hmessage
    obtain ⟨fields, content, rfl, hlast'', rfl⟩ := member?_sorted_eq_some_iff.mp hcontent
    obtain rfl := string?_sorted_eq_some_iff.mp hstring
    exact ⟨members, choice, fields, others, rfl, hlast, hlast', hlast''⟩
  · rintro ⟨members, choice, fields, others, rfl, hchoices, hmessage, hcontent⟩
    exact ⟨_, ⟨_, ⟨_, ⟨_, member?_sorted_eq_some_iff.mpr ⟨_, _, rfl, hchoices, rfl⟩,
      first?_sorted_eq_some_iff.mpr ⟨_, _, rfl, rfl⟩⟩,
      member?_sorted_eq_some_iff.mpr ⟨_, _, rfl, hmessage, rfl⟩⟩,
      member?_sorted_eq_some_iff.mpr ⟨_, _, rfl, hcontent, rfl⟩⟩,
      string?_sorted_eq_some_iff.mpr rfl⟩

/-- The text of the first choice is what the bytes offer. -/
theorem bind_firstChoice?_eq_some_iff {bytes : ByteArray} {s : String} :
    (value? bytes).bind firstChoice? = some s ↔ Offers bytes s := by
  rw [Option.bind_eq_some_iff]
  constructor
  · rintro ⟨value, hvalue, hchoice⟩
    obtain ⟨text, w, hbytes, hspells, rfl⟩ := value?_eq_some_iff.mp hvalue
    obtain ⟨members, choice, fields, others, rfl, hchoices, hmessage, hcontent⟩ :=
      firstChoice?_sorted_eq_some_iff.mp hchoice
    exact .intro hbytes hspells hchoices hmessage hcontent
  · rintro ⟨hbytes, hspells, hchoices, hmessage, hcontent⟩
    exact ⟨_, value?_eq_some_iff.mpr ⟨_, _, hbytes, hspells, rfl⟩,
      firstChoice?_sorted_eq_some_iff.mpr ⟨_, _, _, _, rfl, hchoices, hmessage, hcontent⟩⟩

/-! ## Results -/

variable {response : Response}

/-- A status means success from 200 to 299. -/
theorem isSuccess_iff :
    response.isSuccess = true ↔ 200 ≤ response.status ∧ response.status ≤ 299 := by
  rw [isSuccess, Bool.and_eq_true, decide_eq_true_eq, decide_eq_true_eq]

/-- Without success the result is the status. -/
theorem result_of_not_isSuccess (h : ¬response.isSuccess = true) :
    response.result = .error (.http response.status) := by
  rw [result, if_neg h]

/-- With success the result is the text that is offered. -/
theorem result_of_offers (h : response.isSuccess = true) {s : String}
    (hoffers : Offers response.received s) : response.result = .ok s := by
  obtain ⟨value, hvalue, hchoice⟩ :=
    Option.bind_eq_some_iff.mp (bind_firstChoice?_eq_some_iff.mpr hoffers)
  rw [result, if_pos h, hvalue]
  simp only [hchoice]

/-- With success and no text on offer the response is not expected. -/
theorem result_of_not_offers (h : response.isSuccess = true)
    (hoffers : ¬∃ s, Offers response.received s) :
    ∃ reason, response.result = .error (.unexpectedResponse reason) := by
  rw [result, if_pos h]
  split
  · exact ⟨_, rfl⟩
  · rename_i value hvalue
    split
    · exact ⟨_, rfl⟩
    · rename_i s hchoice
      refine absurd ⟨s, bind_firstChoice?_eq_some_iff.mp ?_⟩ hoffers
      rw [hvalue, Option.bind_some, hchoice]

end Response

/-! ## Exchanges -/

/-- The client of a network makes exchanges over it. -/
theorem complete_web (network : Network) (endpoint : Endpoint) (request : Request) :
    (Client.web network).complete endpoint request = exchange network endpoint request := by
  rw [Client.web]

/-- A final response decides the result of an exchange. -/
theorem result_exchange {network : Network} {endpoint : Endpoint} {request : Request} {url : String}
    {sent : Post} {response : Response} (hpost : post endpoint request = .ok (url, sent))
    (hresponse : network sent = some response) (hfinal : response.isFinal = true) :
    (exchange network endpoint request).result = response.result := by
  rw [exchange, hpost]
  simp only [hresponse]
  rw [if_pos hfinal]

/-- The exchange loses nothing on either way. What is posted for a prompt reads back with the same
model and with the two messages of the prompt. A final response without success gives its status; one
with success gives the text that it offers, and otherwise it is not expected. -/
theorem exchange_lossless {endpoint : Endpoint} {request : Request} {url : String} {sent : Post}
    (hpost : post endpoint request = .ok (url, sent)) :
    (∀ model text temperature, request = ⟨model, promptMessages text, .finite temperature⟩ →
      ∃ t, Request.read sent.body =
        .ok ⟨model, [⟨"system", systemPrompt⟩, ⟨"user", requestLabel ++ text⟩], t⟩) ∧
    ∀ (network : Network) (response : Response), network sent = some response →
      response.isFinal = true →
      let result := ((Client.web network).complete endpoint request).result
      (¬(200 ≤ response.status ∧ response.status ≤ 299) →
        result = .error (.http response.status)) ∧
      (200 ≤ response.status ∧ response.status ≤ 299 →
        (∀ s, result = .ok s ↔ Offers response.received s) ∧
        ((¬∃ s, Offers response.received s) →
          ∃ reason, result = .error (.unexpectedResponse reason))) := by
  refine ⟨?_, ?_⟩
  · intro model text temperature hrequest
    rw [body_of_post hpost, hrequest]
    exact Request.exists_read_body ⟨model, promptMessages text, .finite temperature⟩ rfl
  · intro network response hresponse hfinal
    rw [complete_web, result_exchange hpost hresponse hfinal, ← Response.isSuccess_iff]
    refine ⟨Response.result_of_not_isSuccess, fun hsuccess => ⟨fun s => ⟨fun hs => ?_, ?_⟩, ?_⟩⟩
    · -- Without a text on offer there would be another result.
      by_cases hoffers : ∃ s, Offers response.received s
      · obtain ⟨t, ht⟩ := hoffers
        rw [Response.result_of_offers hsuccess ht] at hs
        rwa [← Except.ok.inj hs]
      · obtain ⟨reason, hreason⟩ := Response.result_of_not_offers hsuccess hoffers
        rw [hreason] at hs
        cases hs
    · exact Response.result_of_offers hsuccess
    · exact Response.result_of_not_offers hsuccess

/-- An address of a server on the same machine. -/
def localAddress : Web.Address where
  scheme := "http"
  authority := some ⟨[], [], some (.grouped [0, 0, 0, 0, 0, 0, 0, 1]), none⟩
  path := "/chat/completions".toList
  query := none
  fragment := none

/-- The completions of an endpoint on the same machine are at this address. -/
theorem read?_localAddress (apiKey : String) :
    Web.Address.read? (Endpoint.completionsUrl ⟨"http://[::1]", apiKey⟩) = some localAddress := by
  cbv

/-- A request to an endpoint on the same machine is posted. -/
theorem post_local (request : Request) :
    post ⟨"http://[::1]", "key"⟩ request =
      .ok ("http://[::1]/chat/completions",
        ⟨"/chat/completions", "Bearer key", "application/json", request.body⟩) := by
  have huser : localAddress.user? = none := by decide
  have hsendable : localAddress.isSendable = true := by decide
  rw [post, read?_localAddress]
  generalize request.body = body
  simp only [Web.Address.withoutUser, huser, authorization, hsendable]
  rfl

/-- A request whose text has quotes. -/
def Request.quoting : Request :=
  ⟨"model", promptMessages "a \"form\"", .finite (.zero .single false)⟩

/-- A completion whose first choice is a text with quotes. -/
def offering : ByteArray :=
  "\x7b\"choices\":[\x7b\"message\":\x7b\"content\":\"a \\\"form\\\"\"\x7d\x7d]\x7d".toUTF8

/-- The completion offers this text. -/
theorem offers_offering : Offers offering "a \"form\"" := by
  apply Response.bind_firstChoice?_eq_some_iff.mp
  cbv

/-- No bytes at all offer nothing. -/
theorem not_offers_empty : ¬∃ s, Offers .empty s := by
  have hnone : (Response.value? .empty).bind Response.firstChoice? = none := by cbv
  rintro ⟨s, hoffers⟩
  have hsome := Response.bind_firstChoice?_eq_some_iff.mpr hoffers
  rw [hnone] at hsome
  cases hsome

/-- On the same machine a request whose text has quotes reads back. A server that answers with a
completion is known by its text, one that is not at the service of anyone by its status, and one that
answers with nothing is not expected. -/
theorem exchange_lossless_quoting :
    (∃ t, Request.read Request.quoting.body =
      .ok ⟨"model", [⟨"system", systemPrompt⟩, ⟨"user", requestLabel ++ "a \"form\""⟩], t⟩) ∧
    ((Client.web fun _ => some ⟨200, offering⟩).complete ⟨"http://[::1]", "key"⟩ .quoting).result =
      .ok "a \"form\"" ∧
    ((Client.web fun _ => some ⟨503, .empty⟩).complete ⟨"http://[::1]", "key"⟩ .quoting).result =
      .error (.http 503) ∧
    ∃ reason,
      ((Client.web fun _ => some ⟨299, .empty⟩).complete ⟨"http://[::1]", "key"⟩ .quoting).result =
        .error (.unexpectedResponse reason) := by
  obtain ⟨hread, hresult⟩ := exchange_lossless (post_local .quoting)
  have hcompleted := hresult (fun _ => some ⟨200, offering⟩) ⟨200, offering⟩ rfl rfl
  have hunavailable := hresult (fun _ => some ⟨503, .empty⟩) ⟨503, .empty⟩ rfl rfl
  have hunexpected := hresult (fun _ => some ⟨299, .empty⟩) ⟨299, .empty⟩ rfl rfl
  refine ⟨hread "model" "a \"form\"" (.zero .single false) rfl, ?_, ?_, ?_⟩
  · exact ((hcompleted.2 (by decide)).1 _).mpr offers_offering
  · exact hunavailable.1 (by decide)
  · exact (hunexpected.2 (by decide)).2 not_offers_empty

end PageSketch.Chat
