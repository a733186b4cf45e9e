import TelcoVecchio.ProcessOwnership

/-!
The ssh processes over any number of lives of the daemon. `setup_ssh_tunnel`
asks for `kill_on_drop`: a panic that ends the task drops the table and the
locals of the call under way, and with them their processes. A signal, as the
service script sends it, drops nothing: what runs then goes on without a daemon,
and no later life knows of it.
-/

namespace TelcoVecchio.DaemonLives

open Common Status Request Service ProcessOwnership

/-- The task of `run`, past `init`; hanging in a call that never returns. -/
inductive Task where
  | absent
  | serving (daemon : Daemon)
  | hanging (daemon : Daemon)

def Task.running : Task → List Child
  | .absent => []
  | .serving daemon => live daemon.log
  | .hanging daemon => live daemon.log

def Task.limit : Task → Option UInt32
  | .absent => none
  | .serving daemon => daemon.context.configuration.sshConfig.tunnelMaxNumber
  | .hanging daemon => daemon.context.configuration.sshConfig.tunnelMaxNumber

/-- `strays` are the ssh processes whose daemon is gone. -/
structure System where
  task : Task
  strays : List Child

def System.fresh : System := ⟨.absent, []⟩

def System.alive (system : System) : List Child := system.task.running ++ system.strays

inductive Move where
  | start (configuration : Configuration) (status : Status)
  | serve (event : Event)
  | panic
  | terminate
  | exit (process : Child)
  | powerCycle

def Panics (daemon : Daemon) : Event → Prop
  | .request env sender request => (handleRequest env sender request daemon).1 = .panic
  | .cleanUp now order calls => (cleanUpExpiredTunnels now order calls daemon).1 = .panic
  | .processExit _ => False

def Hangs (daemon : Daemon) : Event → Prop
  | .request env sender request => (handleRequest env sender request daemon).1 = .stuck
  | .cleanUp now order calls => (cleanUpExpiredTunnels now order calls daemon).1 = .stuck
  | .processExit _ => False

def unwound (daemon : Daemon) : Daemon :=
  daemon.record (daemon.context.tunnels.entries.map fun entry => .dropped entry.2.process)

inductive Step : System → Move → System → Prop
  | started (strays configuration status) :
      Step ⟨.absent, strays⟩ (.start configuration status)
        ⟨.serving (Daemon.start configuration status), strays⟩
  | served (daemon event strays) (returns : Returns daemon event) :
      Step ⟨.serving daemon, strays⟩ (.serve event) ⟨.serving (serve daemon event), strays⟩
  | hung (daemon event strays) (hangs : Hangs daemon event) :
      Step ⟨.serving daemon, strays⟩ (.serve event) ⟨.hanging (serve daemon event), strays⟩
  | died (daemon event strays) (panics : Panics daemon event) :
      Step ⟨.serving daemon, strays⟩ (.serve event)
        ⟨.absent, live (unwound (serve daemon event)).log ++ strays⟩
  -- in `wait_sms` or `send_sms`, which hold no process
  | panicked (daemon strays) :
      Step ⟨.serving daemon, strays⟩ .panic ⟨.absent, live (unwound daemon).log ++ strays⟩
  | terminated (task strays) :
      Step ⟨task, strays⟩ .terminate ⟨.absent, task.running ++ strays⟩
  | exited (daemon process strays) :
      Step ⟨.hanging daemon, strays⟩ (.exit process)
        ⟨.hanging (daemon.record [.exited process]), strays⟩
  | strayExited (task process strays) :
      Step ⟨task, strays⟩ (.exit process) ⟨task, strays.erase process⟩
  -- `reboot` and `poweroff` end every process of the machine
  | powerCycled (task strays) : Step ⟨task, strays⟩ .powerCycle ⟨.absent, []⟩

end TelcoVecchio.DaemonLives
