import Dmsg.DialRequest

/-!
# The dmsgpty command line

`dmsgpty-cli` (`cmd/dmsgpty-cli/commands/root.go`) runs a command in a pty: on this host when
`--addr` names no public key, and otherwise on the host at that dmsg address.  `PreRun` puts
in the default pty port when `--addr` gives none.  The pty client, its defaults and
`Addr.Set`, which parses `--addr`, are outside these files, so the defaults are parameters.
-/

namespace Dmsg.PtyCli

/-- The fields of `dmsgpty.CLI` that `--clinet` and `--cliaddr` set: how to reach the
dmsgpty host. -/
structure Cli where
  net : String
  addr : String
  deriving DecidableEq

/-- The flags of `dmsgpty-cli`: `--clinet`, `--cliaddr`, `--addr`, `--cmd` and `--args`. -/
structure Flags where
  cli : Cli
  remoteAddr : Addr
  cmdName : String
  cmdArgs : List String
  deriving DecidableEq

/-- The flags' values when none is given: `dmsgpty.DefaultCLI()`, the zero `dmsg.Addr`,
`dmsgpty.DefaultCmd` and no arguments. -/
def defaults (defaultCLI : Cli) (defaultCmd : String) : Flags :=
  ⟨defaultCLI, ⟨default, 0⟩, defaultCmd, []⟩

/-- `PreRun`: an unset remote port becomes `dmsgpty.DefaultPort`. -/
def preRun (defaultPort : UInt16) (f : Flags) : Flags :=
  if f.remoteAddr.port = 0 then { f with remoteAddr := { f.remoteAddr with port := defaultPort } }
  else f

/-- The call `RunE` makes. -/
inductive Pty
  | startLocalPty (cli : Cli) (cmdName : String) (cmdArgs : List String)
  | startRemotePty (cli : Cli) (pk : PubKey) (port : UInt16) (cmdName : String)
      (cmdArgs : List String)
  deriving DecidableEq

/-- `RunE`: a local pty when `remoteAddr.PK.Null()`, a remote one at `remoteAddr` otherwise. -/
def runE (f : Flags) : Pty :=
  if f.remoteAddr.pk.null then .startLocalPty f.cli f.cmdName f.cmdArgs
  else .startRemotePty f.cli f.remoteAddr.pk f.remoteAddr.port f.cmdName f.cmdArgs

/-- `rootCmd.Execute()` on parsed flags: `PreRun`, then `RunE`. -/
def execute (defaultPort : UInt16) (f : Flags) : Pty := runE (preRun defaultPort f)

theorem execute_eq (defaultPort : UInt16) (f : Flags) :
    execute defaultPort f =
      if f.remoteAddr.pk.null then .startLocalPty f.cli f.cmdName f.cmdArgs
      else .startRemotePty f.cli f.remoteAddr.pk
        (if f.remoteAddr.port = 0 then defaultPort else f.remoteAddr.port) f.cmdName
        f.cmdArgs := by
  unfold execute preRun
  split_ifs <;> simp_all [runE]

/-- Without `--addr`, `dmsgpty-cli` runs the default command in a local pty. -/
theorem execute_defaults (defaultPort : UInt16) (defaultCLI : Cli) (defaultCmd : String) :
    execute defaultPort (defaults defaultCLI defaultCmd) =
      .startLocalPty defaultCLI defaultCmd [] := by
  rw [execute_eq]
  exact if_pos ((Bytes.null_eq_true _).mpr rfl)

/-- `dmsgpty-cli` runs the command in a remote pty exactly when `--addr` names a public key;
it dials that key, at the port `--addr` gives or else at the default port, so never at port 0
while the default is not 0, and a stream dial request to that address passes the
destination checks of `StreamDialRequest.Verify`. -/
theorem execute_remote (c : Cipher) (encodeGob : StreamDialRequest → List UInt8)
    {defaultPort : UInt16} (hd : defaultPort ≠ 0) (f : Flags) :
    (execute defaultPort f = .startLocalPty f.cli f.cmdName f.cmdArgs ↔
      f.remoteAddr.pk.null = true) ∧
    ∀ cli pk port cmd args, execute defaultPort f = .startRemotePty cli pk port cmd args →
      pk = f.remoteAddr.pk ∧ pk.null = false ∧ port ≠ 0 ∧
      (f.remoteAddr.port ≠ 0 → port = f.remoteAddr.port) ∧
      ∀ (dr : StreamDialRequest) t, dr.dstAddr = ⟨pk, port⟩ →
        dr.verify c encodeGob t ≠ some .reqInvalidDstPK ∧
          dr.verify c encodeGob t ≠ some .reqInvalidDstPort := by
  rw [execute_eq]
  by_cases hk : f.remoteAddr.pk.null
  · simp [hk]
  · refine ⟨by simp [hk], fun cli pk port cmd args h ↦ ?_⟩
    simp only [hk, Bool.false_eq_true, if_false, Pty.startRemotePty.injEq] at h
    obtain ⟨-, rfl, rfl, -, -⟩ := h
    have hp : (if f.remoteAddr.port = 0 then defaultPort else f.remoteAddr.port) ≠ 0 := by
      split_ifs <;> assumption
    refine ⟨rfl, by simpa using hk, hp, fun h ↦ if_neg h, fun dr t hdr ↦ ?_⟩
    exact StreamDialRequest.verify_ne_dst c encodeGob dr t (by simpa [hdr] using hk)
      (by simpa [hdr] using hp)

end Dmsg.PtyCli
