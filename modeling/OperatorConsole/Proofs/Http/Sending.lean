import OperatorConsole.Http.Client
import OperatorConsole.Proofs.Cookie.Origin
import OperatorConsole.Proofs.Cookie.Restart

/-!
# Requests of a call

However often a service redirects, a call is a sequence of requests, each with
the cookies that the session has for its URL by then.  All that a call changes
are the requests that were sent and the cookies that the responses set.
-/

namespace OperatorConsole.Http

/-- A link leads to another one by sending requests.  Only the cookies of a
request that was sent may stand in for others. -/
inductive Asks : Link → Link → Prop where
  | done (link : Link) : Asks link link
  | ask {link last : Link} (request : Request) (before : Option Request)
      (follows : ∀ earlier ∈ before, earlier ∈ link.sent)
      (cookie : request.cookie = link.cookieFor request.url before)
      (later : Asks (link.exchange request).2 last) : Asks link last

namespace Link

variable (link : Link) (request : Request)

theorem sent_exchange :
    (link.exchange request).2.sent = link.sent ++ [request] := rfl

theorem session_exchange :
    ∃ headers, (link.exchange request).2.session =
        link.session.receiveAll headers request.url ∧
      ∀ header ∈ headers, ∃ response,
        link.service (link.sent ++ [request]) = .response response ∧
          header ∈ response.fields "set-cookie" := by
  cases answer : link.service (link.sent ++ [request]) with
  | response response =>
      refine ⟨response.fields "set-cookie", ?_, ?_⟩
      · simp [exchange, answer]
      · exact fun header member => ⟨response, rfl, member⟩
  | closed | silent =>
      refine ⟨[], ?_, by simp⟩
      simp [exchange, answer, Session.receiveAll, CookieJar.receiveAll]

end Link

/-! ## What is heard -/

/-- A header came with the response to a request to a URL.  The request was one
of those that were sent behind some others. -/
inductive Heard (service : List Request → Answer)
    (others sent : List Request) (header : String) : Url → Prop where
  | response {before : List Request} {request : Request} {response : Response}
      (behind : others <+: before) (asked : before ++ [request] <+: sent)
      (answer : service (before ++ [request]) = .response response)
      (field : header ∈ response.fields "set-cookie") :
      Heard service others sent header request.url

theorem Heard.mono {service : List Request → Answer}
    {others fewer sent more : List Request} {header : String} {url : Url}
    (heard : Heard service others sent header url)
    (behind : fewer <+: others) (later : sent <+: more) :
    Heard service fewer more header url := by
  cases heard with
  | response start asked answer field =>
      exact .response (behind.trans start) (asked.trans later) answer field

/-- What is heard comes from a URL that was asked. -/
theorem Heard.exists_request {service : List Request → Answer}
    {others sent : List Request} {header : String} {url : Url}
    (heard : Heard service others sent header url) :
    ∃ request ∈ sent, request.url = url := by
  cases heard with
  | @response before request _ _ asked _ _ =>
      exact ⟨request, asked.subset List.mem_concat_self, rfl⟩

theorem Link.mem_of_mem_exchange {link : Link} {request : Request}
    {cookie : Cookie}
    (member : cookie ∈ (link.exchange request).2.session.jar.toList) :
    cookie ∈ link.session.jar.toList ∨
      ∃ header, Heard link.service link.sent (link.sent ++ [request]) header
          request.url ∧
        cookie.SetBy header request.url link.session.now := by
  obtain ⟨headers, received, fields⟩ := link.session_exchange request
  rw [received] at member
  rcases CookieJar.mem_of_mem_receiveAll member with
    old | ⟨header, came, _, set⟩
  · exact .inl old
  · obtain ⟨response, answer, field⟩ := fields header came
    exact .inr ⟨header,
      .response (List.prefix_refl _) (List.prefix_refl _) answer field, set⟩

namespace Asks

variable {link last : Link}

theorem service_eq (asks : Asks link last) : last.service = link.service := by
  induction asks with
  | done => rfl
  | ask _ _ _ _ _ induction => exact induction

theorem sent_grows (asks : Asks link last) : link.sent <+: last.sent := by
  induction asks with
  | done => exact List.prefix_refl _
  | ask request _ _ _ _ induction =>
      exact (List.prefix_append _ [request]).trans induction

/-- A call changes nothing but the jar of its session. -/
theorem session_eq (asks : Asks link last) :
    ∃ jar, last.session = { link.session with jar := jar } := by
  induction asks with
  | done link => exact ⟨link.session.jar, rfl⟩
  | @ask link last request _ _ _ _ induction =>
      obtain ⟨headers, received, _⟩ := link.session_exchange request
      obtain ⟨jar, same⟩ := induction
      exact ⟨jar, by rw [same, received]; rfl⟩

theorem storable (asks : Asks link last)
    (storable : link.session.jar.Storable) : last.session.jar.Storable := by
  induction asks with
  | done => exact storable
  | @ask link last request _ _ _ _ induction =>
      obtain ⟨headers, received, _⟩ := link.session_exchange request
      refine induction ?_
      rw [received]
      exact storable.receiveAll headers request.url link.session.now_nonneg

/-- The cookies after a call were there before or came with a response. -/
theorem mem_jar (asks : Asks link last) {cookie : Cookie}
    (member : cookie ∈ last.session.jar.toList) :
    cookie ∈ link.session.jar.toList ∨
      ∃ header url, Heard link.service link.sent last.sent header url ∧
        cookie.SetBy header url link.session.now := by
  induction asks with
  | done => exact .inl member
  | @ask link last request _ _ _ later induction =>
      rcases induction member with before | ⟨header, url, heard, set⟩
      · rcases Link.mem_of_mem_exchange before with old | ⟨header, heard, set⟩
        · exact .inl old
        · exact .inr ⟨header, _,
            heard.mono (List.prefix_refl _) later.sent_grows, set⟩
      · obtain ⟨headers, received, _⟩ := link.session_exchange request
        rw [received] at set
        exact .inr ⟨header, url,
          heard.mono (List.prefix_append _ _) (List.prefix_refl _), set⟩

end Asks

/-! ## Calls -/

theorem Request.url_redirected (request : Request) (status : Nat) (url : Url) :
    (request.redirected status url).url = url := by
  unfold redirected
  split
  · rfl
  · rfl

theorem asks_follow (left : Nat) :
    ∀ (link : Link) (request : Request) (before : Option Request),
      (∀ earlier ∈ before, earlier ∈ link.sent) →
      request.cookie = link.cookieFor request.url before →
      Asks link (follow left request link).2 := by
  induction left with
  | zero => exact fun link _ _ _ _ => .done link
  | succ left induction =>
      intro link request before follows cookie
      refine .ask request before follows cookie ?_
      unfold follow
      have sent := link.sent_exchange request
      rcases exchanged : link.exchange request with ⟨answer, next⟩
      rw [exchanged] at sent
      cases answer with
      | closed | silent => exact .done next
      | response response =>
          dsimp only
          split
          · exact .done next
          · next url redirected =>
              split
              · refine induction next _ (some request) ?_ ?_
                · intro earlier member
                  cases member
                  rw [sent]
                  exact List.mem_concat_self
                · simp only [Request.url_redirected]
              · exact .done next

/-- A call leads to another link by sending requests. -/
theorem asks_send (link : Link) (userAgent : String) (method : Method)
    (url : Url) (content : Option Content) :
    Asks link (link.send userAgent method url content).2 := by
  unfold Link.send
  split
  · exact asks_follow _ link _ none (by simp) rfl
  · exact .done link

end OperatorConsole.Http
