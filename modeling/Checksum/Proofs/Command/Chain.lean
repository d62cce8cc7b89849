import Checksum.Proofs.Command.Tasks
import Checksum.Proofs.Refinement

/-!
# A chain of runs

A run that saves its state, and a run that goes on from it, come to the same as one run over all that
both have read: the same line, and the same state saved again. So it is with any number of runs, each of
which goes on from the one before (`Call.chain_is_one_run`). One run of the chain takes a hasher that has
read a message on to one that has read what the run reads as well, and saves that (`Call.Regular.ends`),
and the next run sets out with it. Only what the saved state holds when the next run reads it matters;
it may be read from where the run saves again, and the run may save where it reads from, since all is
read before anything is written.

What is printed is said figure by figure (`expectedLine`), and is the line that a run makes
(`checksumLine_eq`).
-/

namespace Checksum.Command

/-! ### The line -/

/-- The figures of hexadecimal numbers, from zero up. -/
def figures : List Char :=
  ['0', '1', '2', '3', '4', '5', '6', '7', '8', '9', 'a', 'b', 'c', 'd', 'e', 'f']

/-- A byte string in figures, two for each byte and the sixteens first. -/
def inFigures (bs : Bytes) : String :=
  String.ofList (bs.flatMap fun b => [figures.getD (b.toNat / 16) ' ', figures.getD (b.toNat % 16) ' '])

/-- What is to be printed for a checksum. -/
def expectedLine (checksum : Bytes) (a : Algorithm) : String :=
  let name := match a with
    | .md5 => "MD5"
    | .sha224 => "SHA-224"
    | .sha256 => "SHA-256"
  inFigures checksum ++ "  " ++ name ++ "\n"

theorem toHex_eq (bs : Bytes) : bs.toHex = inFigures bs := by
  have hfigure : ∀ n < 16, Nat.digitChar n = figures.getD n ' ' := by decide
  have hdigits : Bytes.hexDigits
      = fun b => [figures.getD (b.toNat / 16) ' ', figures.getD (b.toNat % 16) ' '] := by
    funext b
    have hlt := b.toNat_lt
    rw [Bytes.hexDigits, hfigure _ (by omega), hfigure _ (by omega)]
  rw [Bytes.toHex, inFigures, hdigits]

theorem checksumLine_eq (checksum : Bytes) (a : Algorithm) :
    checksumLine checksum a = expectedLine checksum a := by
  rw [checksumLine, toHex_eq]
  cases a <;> rfl

/-! ### Runs that go on from one another -/

namespace Call

open Files FileSystem

variable {σ : Type} [Files (StateM σ)]

/-- A call that saves its state, and that no reading or writing fails in. Whether a state that it goes on
from is accepted is left open. -/
structure Regular (a : Algorithm) (c : Call σ) : Prop where
  algorithm : c.args.algorithm = a
  serves : c.platform.Serves c.backend a
  saves : c.args.saveState ≠ none
  able : ∀ task ∈ c.args.tasks, (∀ path, task ≠ .importState path) → c.cause? task = none

variable {a : Algorithm} {c : Call σ}

namespace Regular

theorem newHasher_eq (hc : c.Regular a) : c.newHasher = .fresh c.backend a [] := by
  rw [newHasher, hc.algorithm, ← Hasher.fresh_nil, Hasher.absorb_fresh hc.serves, List.append_nil]

theorem outset_of_new (hc : c.Regular a) (hresume : c.args.resume = none) :
    c.outset = .ok (.fresh c.backend a []) := by
  rw [outset, hresume, hc.newHasher_eq]
  rfl

end Regular

variable [FileSystem σ]

/-- What a call has saved. -/
def saved? (c : Call σ) : Option Bytes := c.args.saveState.bind (contentAt? c.after)

/-- The second call goes on from what the first has saved, wherever that is by then. -/
def Follows (c d : Call σ) : Prop :=
  ∃ path, d.args.resume = some path ∧ contentAt? d.before path = c.saved?

theorem Follows.of_next {c d : Call σ} {path : String} (hbefore : d.before = c.after)
    (hsave : c.args.saveState = some path) (hresume : d.args.resume = some path) : c.Follows d := by
  refine ⟨path, hresume, ?_⟩
  rw [saved?, hsave, hbefore, Option.bind_some]

/-- What a call comes to that has read a message, be it all by itself or in going on from others. -/
structure Ends (a : Algorithm) (message : Bytes) (c : Call σ) : Prop where
  exit : c.report.exit = 0
  complaint : c.report.complaint = ""
  output : c.report.output = checksumLine (a.hash message) a
  saved : c.saved? = some (a.saved message)

namespace Regular

/-- A call that goes on sets out with what has been saved. -/
theorem outset_of_saved (hc : c.Regular a) {path : String} (hresume : c.args.resume = some path)
    {message : Bytes} (hsaved : contentAt? c.before path = some (a.saved message)) :
    c.outset = .ok (.fresh c.backend a message) := by
  have hread : c.cause? (.readState path) = none := by
    apply hc.able
    · rw [Args.tasks, hresume]
      exact List.mem_cons_self
    · intro path' heq
      cases heq
  rw [outset, hresume, Command.outset]
  cases hpieces : portions c.before path with
  | error e =>
      simp only [cause?, hpieces] at hread
      cases hread
  | ok pieces =>
      have hcontent := contentAt?_of_portions hpieces
      rw [hsaved] at hcontent
      simp only [← Option.some.inj hcontent, hc.newHasher_eq, Hasher.restore_fresh]
      rfl

/-- A call that sets out comes to an end, as importing is all that could stop it. -/
theorem exit_eq_zero (hc : c.Regular a) {h : Hasher} (houtset : c.outset = .ok h) :
    c.report.exit = 0 := by
  have hnone : (Task.ofState c.args.resume).findSome? c.complaintOf? = none := by
    rw [← complaint?_outset, houtset]
    rfl
  rw [findSome?_complaintOf?_eq_none_iff] at hnone
  rw [exit_eq_zero_iff]
  intro task htask
  have hparts := htask
  rw [Args.tasks, List.mem_append, List.mem_append] at hparts
  rcases hparts with (hstate | hfiles) | hsave
  · exact hnone task hstate
  · exact hc.able task htask (Task.ne_importState_of_mem_ofFiles hfiles)
  · exact hc.able task htask (Task.ne_importState_of_mem_ofSave hsave)

theorem ends (hc : c.Regular a) {earlier : Bytes}
    (houtset : c.outset = .ok (.fresh c.backend a earlier)) :
    ∃ message, c.message? = some message ∧ c.Ends a (earlier ++ message) := by
  have hexit := hc.exit_eq_zero houtset
  obtain ⟨hcomplaint, first, pieces, last, hfirst, hmessage, hlast, houtput, hdeposit⟩ :=
    c.report_of_done hexit
  have hfresh : first = .fresh c.backend a earlier := by
    rw [houtset] at hfirst
    exact (Except.ok.inj hfirst).symm
  rw [hfresh, Hasher.writeAll_fresh hc.serves] at hlast
  refine ⟨pieces.flatten, hmessage, hexit, hcomplaint, ?_, ?_⟩
  · rw [houtput, hlast, Hasher.checksum_fresh hc.serves, hc.algorithm]
  · rw [saved?]
    cases hsave : c.args.saveState with
    | none => exact absurd hsave hc.saves
    | some path =>
        rw [hsave] at hdeposit
        rw [Option.bind_some, contentAt?_of_written (written_of_deposit hdeposit), hlast,
          Hasher.save_fresh]

end Regular

theorem ends_of_chain {first : Call σ} {later : List (Call σ)} {earlier : Bytes}
    (houtset : first.outset = .ok (.fresh first.backend a earlier))
    (hall : ∀ c ∈ first :: later, c.Regular a) (hchain : (first :: later).IsChain Follows) :
    ∃ messages : List Bytes, (first :: later).map message? = messages.map some ∧
      ((first :: later).getLast (List.cons_ne_nil _ _)).Ends a (earlier ++ messages.flatten) := by
  induction later generalizing first earlier with
  | nil =>
      obtain ⟨message, hmessage, hends⟩ := (hall first List.mem_cons_self).ends houtset
      refine ⟨[message], ?_, ?_⟩
      · rw [List.map_cons, hmessage]
        rfl
      · rw [List.flatten_singleton]
        exact hends
  | cons next later ih =>
      obtain ⟨message, hmessage, hends⟩ := (hall first List.mem_cons_self).ends houtset
      rw [List.isChain_cons_cons] at hchain
      obtain ⟨⟨path, hresume, hcontent⟩, hrest⟩ := hchain
      rw [hends.saved] at hcontent
      have hnext : ∀ c ∈ next :: later, c.Regular a := fun c hc => hall c (List.mem_cons_of_mem _ hc)
      -- What the first call has read is all in the state that the next one sets out with.
      have houtset' := (hnext next List.mem_cons_self).outset_of_saved hresume hcontent
      obtain ⟨messages, hmessages, hlast⟩ := ih houtset' hnext hrest
      refine ⟨message :: messages, ?_, ?_⟩
      · rw [List.map_cons, hmessages, hmessage]
        rfl
      · rw [List.getLast_cons (List.cons_ne_nil _ _), List.flatten_cons, ← List.append_assoc]
        exact hlast

/-- However many calls go on from one another, the last prints the checksum of all that they have read,
one after another, and saves the state of it; and so does a single call that reads all of it. -/
theorem chain_is_one_run {first : Call σ} {later : List (Call σ)} (hfirst : first.args.resume = none)
    (hall : ∀ c ∈ first :: later, c.Regular a) (hchain : (first :: later).IsChain Follows) :
    let last := (first :: later).getLast (List.cons_ne_nil _ _)
    ∃ messages : List Bytes, (first :: later).map message? = messages.map some ∧
      last.report.exit = 0 ∧ last.report.complaint = "" ∧
      (∀ host : Host, host.platform.Serves (host.backendFor a).1 a →
        last.report.output = expectedLine (host.checksum a messages.flatten).1 a) ∧
      last.saved? = some (a.saved messages.flatten) ∧
      ∀ single : Call σ, single.Regular a → single.args.resume = none →
        single.message? = some messages.flatten →
          single.report.exit = 0 ∧ single.report.output = last.report.output ∧
            single.saved? = last.saved? := by
  intro last
  have houtset := (hall first List.mem_cons_self).outset_of_new hfirst
  obtain ⟨messages, hmessages, hlast⟩ := ends_of_chain houtset hall hchain
  rw [List.nil_append] at hlast
  refine ⟨messages, hmessages, hlast.exit, hlast.complaint, ?_, hlast.saved, ?_⟩
  · intro host hhost
    rw [Host.checksum_eq hhost, ← checksumLine_eq]
    exact hlast.output
  · intro single hsingle hresume hmessage
    obtain ⟨message, hmessage', hends⟩ := hsingle.ends (hsingle.outset_of_new hresume)
    obtain rfl : message = messages.flatten := by
      rw [hmessage] at hmessage'
      exact (Option.some.inj hmessage').symm
    rw [List.nil_append] at hends
    exact ⟨hends.exit, hends.output.trans hlast.output.symm, hends.saved.trans hlast.saved.symm⟩

/-- The first call reads a file twice, byte by byte; the second reads its input, and saves where it has
read the state; the third saves in the file that it reads. -/
theorem chain_is_one_run_in_place :
    let message : Bytes := List.replicate 100 1 ++ [7, 8] ++ List.replicate 50 1
    ∃ c d e single : Call World,
      c.args = ⟨.md5, some "s", none, ["a", "a"]⟩ ∧
      d.args = ⟨.md5, some "s", some "s", []⟩ ∧ d.before = c.after ∧
      e.args = ⟨.md5, some "a", some "s", ["a"]⟩ ∧ e.before = d.after ∧
      single.message? = some message ∧ e.saved? = single.saved? ∧
      e.report.output = single.report.output ∧
      e.report.output
        = inFigures ((Host.start .generic none).checksum .md5 message).1 ++ "  " ++ "MD5" ++ "\n" := by
  intro message
  let bytewise : Portioning := ⟨fun bs => bs.map fun b => [b], List.flatMap_singleton'⟩
  let once : Bytes := List.replicate 50 1
  let c : Call World := {
    platform := .generic
    env := ⟨none, none⟩
    argv := ["-amd5", "--save-state", "s", "a", "a"]
    args := ⟨.md5, some "s", none, ["a", "a"]⟩
    parse_argv := by decide
    before := ⟨[("a", once)], [7, 8], bytewise, none⟩ }
  let d : Call World := {
    platform := .generic
    env := ⟨none, none⟩
    argv := ["-amd5", "--save-state=s", "--resume=s"]
    args := ⟨.md5, some "s", some "s", []⟩
    parse_argv := by decide
    before := c.after }
  let e : Call World := {
    platform := .generic
    env := ⟨none, none⟩
    argv := ["--resume", "s", "-amd5", "--save-state", "a", "a"]
    args := ⟨.md5, some "a", some "s", ["a"]⟩
    parse_argv := by decide
    before := d.after }
  let single : Call World := {
    platform := .generic
    env := ⟨none, none⟩
    argv := ["-amd5", "--save-state", "t", "all"]
    args := ⟨.md5, some "t", none, ["all"]⟩
    parse_argv := by decide
    before := ⟨[("all", List.replicate 100 1 ++ [7, 8] ++ once)], [], .whole, none⟩ }
  have hc : ∀ task ∈ c.args.tasks, c.cause? task = none := by decide +kernel
  have hd : ∀ task ∈ d.args.tasks, d.cause? task = none := by decide +kernel
  have he : ∀ task ∈ e.args.tasks, e.cause? task = none := by decide +kernel
  have hsingle : ∀ task ∈ single.args.tasks, single.cause? task = none := by decide +kernel
  have hregular (call : Call World) (halgorithm : call.args.algorithm = .md5)
      (hsaves : call.args.saveState ≠ none) (hable : ∀ task ∈ call.args.tasks, call.cause? task = none) :
      call.Regular .md5 :=
    ⟨halgorithm, Platform.serves_md5 _ _, hsaves, fun task htask _ => hable task htask⟩
  have hall : ∀ call ∈ [c, d, e], call.Regular .md5 := by
    simp only [List.mem_cons, List.not_mem_nil, or_false]
    rintro call (rfl | rfl | rfl)
    · exact hregular c rfl (by decide) hc
    · exact hregular d rfl (by decide) hd
    · exact hregular e rfl (by decide) he
  have hsecond : d.before = c.after := by simp only [d]
  have hthird : e.before = d.after := by simp only [e]
  have hchain : [c, d, e].IsChain Follows :=
    .cons_cons (.of_next hsecond rfl rfl) (.cons_cons (.of_next hthird rfl rfl) (.singleton e))
  have hread : [c, d, e].map message? = [once ++ once, [7, 8], once].map some := by decide +kernel
  obtain ⟨messages, hmessages, -, -, hline, -, hsame⟩ := chain_is_one_run (a := .md5) rfl hall hchain
  have hparts : messages = [once ++ once, [7, 8], once] :=
    (List.map_inj_right fun _ _ => Option.some.inj).mp (hmessages.symm.trans hread)
  have hmessage : messages.flatten = message := by
    rw [hparts]
    decide
  have hone : single.message? = some message := by decide +kernel
  rw [hmessage] at hline hsame
  obtain ⟨-, houtput, hsaved⟩ := hsame single (hregular single rfl (by decide) hsingle) rfl hone
  exact ⟨c, d, e, single, rfl, rfl, hsecond, rfl, hthird, hone, hsaved.symm, houtput.symm,
    hline (.start .generic none) (Platform.serves_md5 _ _)⟩

end Call

end Checksum.Command
