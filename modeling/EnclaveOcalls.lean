import EnclaveOcalls.Basic
import EnclaveOcalls.Machine
import EnclaveOcalls.Logic
import EnclaveOcalls.Primitives
import EnclaveOcalls.Exitless
import EnclaveOcalls.Files
import EnclaveOcalls.Sockets
import EnclaveOcalls.Process
import EnclaveOcalls.Attestation
import EnclaveOcalls.Api
import EnclaveOcalls.WaitPhase
import EnclaveOcalls.Lock
import EnclaveOcalls.Lifetime
import EnclaveOcalls.Lengths
import EnclaveOcalls.Isolation
import EnclaveOcalls.Marshalling
import EnclaveOcalls.Confinement
import EnclaveOcalls.Secrecy
import EnclaveOcalls.Keeps
import EnclaveOcalls.Blobs
import EnclaveOcalls.Strings
