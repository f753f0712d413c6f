import EnclaveOcalls.Attestation

/-!
# The OCALL interface

Every wrapper of `enclave_ocalls.c`, as one type of calls with their arguments, and `Call.run`,
which runs the wrapper a call names. Whole-interface results quantify over `Call`: every
wrapper, every argument.
-/

namespace EnclaveOcalls

open OcallM

/-- A call of one of the wrappers of `enclave_ocalls.c`, with its arguments (pointers as
addresses, C integers as `Int` or `Nat` as the wrapper's parameter types are signed or
unsigned). -/
inductive Call
  | exit (exitcode isExitgroup : Int)
  | mmapUntrusted (fd : Int) (offset size prot mem : Nat)
  | munmapUntrusted (mem size : Nat)
  | cpuid (leaf subleaf values : Nat)
  | «open» (pathname : Nat) (flags : Int) (mode : Nat)
  | close (fd : Int)
  | read (fd : Int) (buf count : Nat)
  | write (fd : Int) (buf count : Nat)
  | fstat (fd : Int) (buf : Nat)
  | fionread (fd : Int)
  | fsetnonblock (fd nonblocking : Int)
  | fchmod (fd : Int) (mode : Nat)
  | fsync (fd : Int)
  | ftruncate (fd : Int) (length : Nat)
  | lseek (fd : Int) (offset : Nat) (whence : Int)
  | mkdir (pathname mode : Nat)
  | getdents (fd : Int) (dirp size : Nat)
  | resumeThread (tcs : Nat)
  | cloneThread
  | createProcess (uri : Nat) (nargs : Int) (args procfds pid : Nat)
  | futex (futex : Nat) (op val timeoutUs : Int)
  | socketpair (domain type protocol : Int) (sockfds : Nat)
  | listen (domain type protocol : Int) (addr addrlen sockopt : Nat)
  | accept (sockfd : Int) (addr addrlen sockopt : Nat)
  | connect (domain type protocol : Int) (addr addrlen bindAddr bindAddrlen sockopt : Nat)
  | recv (sockfd : Int) (buf count addr addrlenptr control controllenptr : Nat)
  | send (sockfd : Int) (buf count addr addrlen control controllen : Nat)
  | setsockopt (sockfd level optname : Int) (optval optlen : Nat)
  | shutdown (sockfd how : Int)
  | gettime (microsec : Nat)
  | sleep (microsec : Nat)
  | poll (fds : Nat) (nfds timeoutUs : Int)
  | rename (oldpath newpath : Nat)
  | delete (pathname : Nat)
  | loadDebug (command : Nat)
  | getAttestation (spid subkey : Nat) (linkable : Bool) (report nonce attestation : Nat)
  | eventfd (initval : Nat) (flags : Int)

/-- Run the wrapper a call names. `ocall_exit` never returns. -/
def Call.run : Call → OcallM Int
  | .exit exitcode isExitgroup => Empty.elim <$> ocallExit exitcode isExitgroup
  | .mmapUntrusted fd offset size prot mem => ocallMmapUntrusted fd offset size prot mem
  | .munmapUntrusted mem size => ocallMunmapUntrusted mem size
  | .cpuid leaf subleaf values => ocallCpuid leaf subleaf values
  | .open pathname flags mode => ocallOpen pathname flags mode
  | .close fd => ocallClose fd
  | .read fd buf count => ocallRead fd buf count
  | .write fd buf count => ocallWrite fd buf count
  | .fstat fd buf => ocallFstat fd buf
  | .fionread fd => ocallFionread fd
  | .fsetnonblock fd nonblocking => ocallFsetnonblock fd nonblocking
  | .fchmod fd mode => ocallFchmod fd mode
  | .fsync fd => ocallFsync fd
  | .ftruncate fd length => ocallFtruncate fd length
  | .lseek fd offset whence => ocallLseek fd offset whence
  | .mkdir pathname mode => ocallMkdir pathname mode
  | .getdents fd dirp size => ocallGetdents fd dirp size
  | .resumeThread tcs => ocallResumeThread tcs
  | .cloneThread => ocallCloneThread
  | .createProcess uri nargs args procfds pid => ocallCreateProcess uri nargs args procfds pid
  | .futex uaddr op val timeoutUs => ocallFutex uaddr op val timeoutUs
  | .socketpair domain type protocol sockfds => ocallSocketpair domain type protocol sockfds
  | .listen domain type protocol addr addrlen sockopt =>
    ocallListen domain type protocol addr addrlen sockopt
  | .accept sockfd addr addrlen sockopt => ocallAccept sockfd addr addrlen sockopt
  | .connect domain type protocol addr addrlen bindAddr bindAddrlen sockopt =>
    ocallConnect domain type protocol addr addrlen bindAddr bindAddrlen sockopt
  | .recv sockfd buf count addr addrlenptr control controllenptr =>
    ocallRecv sockfd buf count addr addrlenptr control controllenptr
  | .send sockfd buf count addr addrlen control controllen =>
    ocallSend sockfd buf count addr addrlen control controllen
  | .setsockopt sockfd level optname optval optlen =>
    ocallSetsockopt sockfd level optname optval optlen
  | .shutdown sockfd how => ocallShutdown sockfd how
  | .gettime microsec => ocallGettime microsec
  | .sleep microsec => ocallSleep microsec
  | .poll fds nfds timeoutUs => ocallPoll fds nfds timeoutUs
  | .rename oldpath newpath => ocallRename oldpath newpath
  | .delete pathname => ocallDelete pathname
  | .loadDebug command => ocallLoadDebug command
  | .getAttestation spid subkey linkable report nonce attestation =>
    ocallGetAttestation spid subkey linkable report nonce attestation
  | .eventfd initval flags => ocallEventfd initval flags

/-- A thread's OCALLs one after another, with their results. -/
def runCalls : List Call → OcallM (List Int)
  | [] => pure []
  | c :: cs => do
    let r ← c.run
    let rs ← runCalls cs
    return r :: rs

end EnclaveOcalls
