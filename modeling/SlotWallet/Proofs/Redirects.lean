import SlotWallet.Node.Http

/-!
# The way that replies lead

A client goes on from its request for as long as replies send it on, its limit is not reached
and it is sent to web addresses. What it asks for on the way and how that ends is settled by the
replies (`chain_iff`). It uses up one reply for its request and one for each hop, and it is led
nowhere but to the locations of these replies.
-/

namespace SlotWallet

/-- Where a reply leads. -/
inductive HttpReply.Redirects : HttpReply → HttpHop → Prop
  | fetched {status : Nat} {body url : String} (h : status ∈ [301, 302, 303, 307, 308]) :
      Redirects (.answer status body (some url)) (.fetched url)
  | repeated {status : Nat} {body url : String} (h : status ∈ [307, 308]) :
      Redirects (.answer status body (some url)) (.repeated url)

/-- What a client that has posted or not goes on to ask for, within a number of hops, and how
that ends. -/
inductive HttpChain : Bool → Nat → List HttpReply → List HttpHop → HttpEnd → Prop
  | lost {posted : Bool} {maxHops : Nat} {replies : List HttpReply}
      (hfirst : HttpReply.first? replies = none) : HttpChain posted maxHops replies [] .lost
  | settled {posted : Bool} {maxHops : Nat} {replies : List HttpReply} {response : HttpResponse}
      (hfirst : HttpReply.first? replies = some response) (hhop : response.hop? posted = none) :
      HttpChain posted maxHops replies [] (.response response)
  | tooManyHops {posted : Bool} {replies : List HttpReply} {response : HttpResponse}
      {hop : HttpHop} (hfirst : HttpReply.first? replies = some response)
      (hhop : response.hop? posted = some hop) : HttpChain posted 0 replies [] .tooManyHops
  | astray {posted : Bool} {maxHops : Nat} {replies : List HttpReply} {response : HttpResponse}
      {hop : HttpHop} (hfirst : HttpReply.first? replies = some response)
      (hhop : response.hop? posted = some hop) (hurl : Url.isUsable hop.url = false) :
      HttpChain posted (maxHops + 1) replies [] .astray
  | hop {posted : Bool} {maxHops : Nat} {replies : List HttpReply} {response : HttpResponse}
      {hop : HttpHop} {hops : List HttpHop} {ending : HttpEnd}
      (hfirst : HttpReply.first? replies = some response)
      (hhop : response.hop? posted = some hop) (hurl : Url.isUsable hop.url = true)
      (hlater : HttpChain hop.posts maxHops replies.tail hops ending) :
      HttpChain posted (maxHops + 1) replies (hop :: hops) ending

namespace HttpLink

theorem chain_follow (posted : Bool) (maxHops : Nat) (replies : List HttpReply) :
    HttpChain posted maxHops replies (follow posted maxHops replies).hops
      (follow posted maxHops replies).ending := by
  fun_induction follow posted maxHops replies with
  | case1 posted maxHops replies hfirst => exact .lost hfirst
  | case2 posted maxHops replies response hfirst hhop => exact .settled hfirst hhop
  | case3 posted replies response hfirst hop hhop => exact .tooManyHops hfirst hhop
  | case4 posted replies response hfirst hop maxHops hhop hurl later ih =>
    exact .hop hfirst hhop hurl ih
  | case5 posted replies response hfirst hop maxHops hhop hurl =>
    exact .astray hfirst hhop (by simpa using hurl)

theorem chain_iff {posted : Bool} {maxHops : Nat} {replies : List HttpReply} {hops : List HttpHop}
    {ending : HttpEnd} :
    HttpChain posted maxHops replies hops ending ↔
      (follow posted maxHops replies).hops = hops ∧
        (follow posted maxHops replies).ending = ending := by
  constructor
  · intro h
    induction h with
    | lost hfirst => simp [follow, hfirst]
    | settled hfirst hhop => simp [follow, hfirst, hhop]
    | tooManyHops hfirst hhop => simp [follow, hfirst, hhop]
    | astray hfirst hhop hurl => simp [follow, hfirst, hhop, hurl]
    | hop hfirst hhop hurl _ ih =>
      rw [follow]
      simp [hfirst, hhop, hurl, ih]
  · rintro ⟨rfl, rfl⟩
    exact chain_follow posted maxHops replies

theorem replies_follow (posted : Bool) (maxHops : Nat) (replies : List HttpReply) :
    (follow posted maxHops replies).replies =
      replies.drop ((follow posted maxHops replies).hops.length + 1) := by
  fun_induction follow posted maxHops replies with
  | case1 | case2 | case3 | case5 => simp
  | case4 posted replies response hfirst hop maxHops hhop hurl later ih =>
    rw [List.length_cons, ← List.drop_tail]
    exact ih

theorem exists_answer {reply : HttpReply} {response : HttpResponse}
    (h : reply.response? = some response) :
    ∃ body, reply = .answer response.status body response.location := by
  cases reply with
  | closed => contradiction
  | answer status body location =>
    obtain ⟨-, hresponse⟩ := Option.ite_none_right_eq_some.mp h
    cases hresponse
    exact ⟨body, rfl⟩

theorem redirects_of_hop? {reply : HttpReply} {response : HttpResponse} {posted : Bool}
    {hop : HttpHop} (hresponse : reply.response? = some response)
    (hhop : response.hop? posted = some hop) : reply.Redirects hop := by
  obtain ⟨body, rfl⟩ := exists_answer hresponse
  obtain ⟨url, hurl, hhop⟩ := Option.bind_eq_some_iff.mp hhop
  rw [hurl]
  split at hhop
  · rename_i hget
    cases hhop
    exact .fetched (List.mem_append_left [307, 308] hget)
  · obtain ⟨hsame, hhop⟩ := Option.ite_none_right_eq_some.mp hhop
    cases hhop
    cases posted with
    | true => exact .repeated hsame
    | false => exact .fetched (List.mem_append_right [301, 302, 303] hsame)

/-- A client is led nowhere but where one of the replies leads. -/
theorem redirects_follow {posted : Bool} {maxHops : Nat} {replies : List HttpReply} {hop : HttpHop}
    (h : hop ∈ (follow posted maxHops replies).hops) : ∃ reply ∈ replies, reply.Redirects hop := by
  have hchain := chain_follow posted maxHops replies
  generalize (follow posted maxHops replies).hops = hops at h hchain
  generalize (follow posted maxHops replies).ending = ending at hchain
  induction hchain with
  | lost | settled | tooManyHops | astray => contradiction
  | @hop _ _ replies _ _ _ _ hfirst hhop _ _ ih =>
    rcases List.mem_cons.mp h with rfl | hlater
    · obtain ⟨reply, hreply, hresponse⟩ := Option.bind_eq_some_iff.mp hfirst
      exact ⟨reply, List.mem_of_head? hreply, redirects_of_hop? hresponse hhop⟩
    · obtain ⟨reply, hreply, hredirects⟩ := ih hlater
      exact ⟨reply, List.mem_of_mem_tail hreply, hredirects⟩

end HttpLink

end SlotWallet
